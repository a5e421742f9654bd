import CallStream.Names.Enums
import CallStream.Names.Flags
import CallStream.Schema.Resource

/-!
# Structures of commands

The layouts of the structures that command buffers and the commands recorded into them carry.
-/

namespace CallStream.StructSchema

open FieldSpec

/-- How a command pool is created. -/
def commandPoolCreateInfo : StructSchema where
  name := "VkCommandPoolCreateInfo"
  tag := some 39
  fields := [flags "flags" .commandPoolCreate, u32 "queueFamilyIndex"]

/-- How many command buffers are allocated from a pool, and which ones. -/
def commandBufferAllocateInfo : StructSchema where
  name := "VkCommandBufferAllocateInfo"
  tag := some 40
  fields := [
    handle "commandPool" .commandPool, enum "level" .commandBufferLevel, u32 "commandBufferCount"]

/-- The state that a secondary command buffer takes over from its caller. -/
def commandBufferInheritanceInfo : StructSchema where
  name := "VkCommandBufferInheritanceInfo"
  tag := some 41
  fields := [
    handle "renderPass" .renderPass, u32 "subpass", handle "framebuffer" .framebuffer,
    bool32 "occlusionQueryEnable", u32 "queryFlags", u32 "pipelineStatistics"]

/-- How the recording of a command buffer begins. -/
def commandBufferBeginInfo : StructSchema where
  name := "VkCommandBufferBeginInfo"
  tag := some 42
  fields := [
    flags "flags" .commandBufferUsage,
    (struct "pInheritanceInfo" .commandBufferInheritanceInfo).optional]

/-- A color. Of the members of the union, the four floats are sent. -/
def clearColorValue : StructSchema where
  name := "VkClearColorValue"
  tag := none
  fields := [(f32 "float32").times 4]

/-- What an attachment is cleared to. Of the members of the union, the color is sent. -/
def clearValue : StructSchema where
  name := "VkClearValue"
  tag := none
  fields := [struct "color" .clearColorValue]

/-- The part of a framebuffer that a render pass draws to, and what it is cleared to. -/
def renderPassBeginInfo : StructSchema where
  name := "VkRenderPassBeginInfo"
  tag := some 43
  fields := [
    handle "renderPass" .renderPass, handle "framebuffer" .framebuffer,
    struct "renderArea" .rect2D, u32 "clearValueCount",
    (struct "pClearValues" .clearValue).optional.countedBy "clearValueCount"]

/-- A barrier for a part of a buffer. -/
def bufferMemoryBarrier : StructSchema where
  name := "VkBufferMemoryBarrier"
  tag := some 44
  fields := [
    flags "srcAccessMask" .access, flags "dstAccessMask" .access, u32 "srcQueueFamilyIndex",
    u32 "dstQueueFamilyIndex", handle "buffer" .buffer, u64 "offset", u64 "size"]

/-- A barrier for a part of an image, which may change its layout. -/
def imageMemoryBarrier : StructSchema where
  name := "VkImageMemoryBarrier"
  tag := some 45
  fields := [
    flags "srcAccessMask" .access, flags "dstAccessMask" .access, enum "oldLayout" .imageLayout,
    enum "newLayout" .imageLayout, u32 "srcQueueFamilyIndex", u32 "dstQueueFamilyIndex",
    handle "image" .image, struct "subresourceRange" .imageSubresourceRange]

/-- A barrier for all memory. -/
def memoryBarrier : StructSchema where
  name := "VkMemoryBarrier"
  tag := some 46
  fields := [flags "srcAccessMask" .access, flags "dstAccessMask" .access]

/-- The parts of a buffer and an image that are copied into each other. -/
def bufferImageCopy : StructSchema where
  name := "VkBufferImageCopy"
  tag := none
  fields := [
    u64 "bufferOffset", u32 "bufferRowLength", u32 "bufferImageHeight",
    struct "imageSubresource" .imageSubresourceLayers, struct "imageOffset" .offset3D,
    struct "imageExtent" .extent3D]

/-- An attachment, and what it is cleared to. -/
def clearAttachment : StructSchema where
  name := "VkClearAttachment"
  tag := none
  fields := [
    flags "aspectMask" .imageAspect, u32 "colorAttachment", struct "clearValue" .clearValue]

/-- The part of an attachment that is cleared. -/
def clearRect : StructSchema where
  name := "VkClearRect"
  tag := none
  fields := [struct "rect" .rect2D, u32 "baseArrayLayer", u32 "layerCount"]

end CallStream.StructSchema
