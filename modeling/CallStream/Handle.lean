import CallStream.Wire.Cursor

/-!
# Handles

The object types that travel as handles, and how a handle is mapped while it is read. Each type
has a tag that is part of the ids handed to guests, and no tag is zero.

## Main results

- `ofTag?_tag`: a type is recovered from its tag.
- `tag_ne_zero`: no type has the tag zero.
-/

namespace CallStream

/-- The object types that travel as handles. -/
inductive HandleType where
  | instanceHandle
  | physicalDevice
  | device
  | queue
  | buffer
  | image
  | deviceMemory
  | commandBuffer
  | imageView
  | shaderModule
  | descriptorSetLayout
  | descriptorPool
  | descriptorSet
  | semaphore
  | sampler
  | event
  | renderPass
  | framebuffer
  | pipelineLayout
  | pipelineCache
  | pipeline
  | fence
  | bufferView
  | queryPool
  | commandPool
deriving DecidableEq, Repr

/-- What a handle is good for. -/
inductive HandleKind where
  /-- It selects a table of driver functions. -/
  | dispatchable
  /-- It only names a driver object. -/
  | nonDispatchable
deriving DecidableEq, Repr

namespace HandleType

/-- Every object type, by rising tag. -/
def all : List HandleType :=
  [instanceHandle, physicalDevice, device, queue, buffer, image, deviceMemory, commandBuffer,
    imageView, shaderModule, descriptorSetLayout, descriptorPool, descriptorSet, semaphore, sampler,
    event, renderPass, framebuffer, pipelineLayout, pipelineCache, pipeline, fence, bufferView,
    queryPool, commandPool]

/-- The tag of a type in the ids handed to guests. -/
def tag : HandleType → UInt16
  | instanceHandle => 1
  | physicalDevice => 2
  | device => 3
  | queue => 4
  | buffer => 5
  | image => 6
  | deviceMemory => 7
  | commandBuffer => 8
  | imageView => 9
  | shaderModule => 10
  | descriptorSetLayout => 11
  | descriptorPool => 12
  | descriptorSet => 13
  | semaphore => 14
  | sampler => 15
  | event => 16
  | renderPass => 17
  | framebuffer => 18
  | pipelineLayout => 19
  | pipelineCache => 20
  | pipeline => 21
  | fence => 22
  | bufferView => 23
  | queryPool => 24
  | commandPool => 33

/-- The type with a given tag. -/
def ofTag? (tag : UInt16) : Option HandleType := all.find? (·.tag == tag)

/-- The name of a type in the graphics API. -/
def name : HandleType → String
  | instanceHandle => "VkInstance"
  | physicalDevice => "VkPhysicalDevice"
  | device => "VkDevice"
  | queue => "VkQueue"
  | buffer => "VkBuffer"
  | image => "VkImage"
  | deviceMemory => "VkDeviceMemory"
  | commandBuffer => "VkCommandBuffer"
  | imageView => "VkImageView"
  | shaderModule => "VkShaderModule"
  | descriptorSetLayout => "VkDescriptorSetLayout"
  | descriptorPool => "VkDescriptorPool"
  | descriptorSet => "VkDescriptorSet"
  | semaphore => "VkSemaphore"
  | sampler => "VkSampler"
  | event => "VkEvent"
  | renderPass => "VkRenderPass"
  | framebuffer => "VkFramebuffer"
  | pipelineLayout => "VkPipelineLayout"
  | pipelineCache => "VkPipelineCache"
  | pipeline => "VkPipeline"
  | fence => "VkFence"
  | bufferView => "VkBufferView"
  | queryPool => "VkQueryPool"
  | commandPool => "VkCommandPool"

/-- The type with a given API name. -/
def ofName? (name : String) : Option HandleType := all.find? (·.name == name)

/-- Instances, devices, queues and command buffers select driver functions; other objects do not. -/
def kind : HandleType → HandleKind
  | instanceHandle | physicalDevice | device | queue | commandBuffer => .dispatchable
  | _ => .nonDispatchable

/-- Whether a handle of this type selects driver functions. -/
def isDispatchable (type : HandleType) : Bool := type.kind = .dispatchable

/-- A type is found by its tag. -/
theorem ofTag?_tag (type : HandleType) : ofTag? type.tag = some type := by
  cases type <;> decide

/-- No type has the tag zero, so an id is never null. -/
theorem tag_ne_zero (type : HandleType) : type.tag ≠ 0 := by
  cases type <;> decide

end HandleType

/-- How a handle is mapped while it is read. -/
inductive HandleMapping where
  /-- A guest id becomes the driver's value. -/
  | normal
  /-- The value on the wire is kept. -/
  | disabled
  /-- A guest id becomes the driver's value and is destroyed once the call has been read. -/
  | preserveForTrace
deriving DecidableEq, Repr

/-- A mapper of handles with a state of its own, such as the table of live objects. -/
abbrev HandleMapper (σ ε : Type) := HandleType → HandleMapping → UInt64 → EStateM ε σ UInt64

/-- The mapper of tools that never touch live objects: every handle stands for itself. -/
def HandleMapper.identity {σ ε : Type} : HandleMapper σ ε := fun _ _ handle => pure handle

end CallStream
