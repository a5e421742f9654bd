import CallStream.Call.Basic
import CallStream.Schema.Command

/-!
# Calls on command buffers

The calls that create command pools, and allocate, free and record command buffers.
-/

namespace CallStream.CallDescriptor

open FieldSpec ParamSpec

/-- Creates a pool of command buffers. -/
def createCommandPool : CallDescriptor where
  opcode := 20085
  name := "vkCreateCommandPool"
  params := [
    object "device" .device, createInfo .commandPoolCreateInfo, allocator,
    created "pCommandPool" .commandPool]
  result := some .i32
  route := .globalState

/-- Destroys a pool of command buffers. -/
def destroyCommandPool : CallDescriptor where
  opcode := 20086
  name := "vkDestroyCommandPool"
  params := [object "device" .device, destroyed "commandPool" .commandPool, allocator]
  route := .globalState

/-- Allocates command buffers from a pool, as many as the structure says. -/
def allocateCommandBuffers : CallDescriptor where
  opcode := 20088
  name := "vkAllocateCommandBuffers"
  params := [
    object "device" .device, input (struct "pAllocateInfo" .commandBufferAllocateInfo),
    (output ((handle "pCommandBuffers" .commandBuffer).countedAt
      ["pAllocateInfo", "commandBufferCount"])).creating]
  result := some .i32
  route := .globalState

/-- Frees command buffers, null ones among them. -/
def freeCommandBuffers : CallDescriptor where
  opcode := 20089
  name := "vkFreeCommandBuffers"
  params := [
    object "device" .device, object "commandPool" .commandPool, number "commandBufferCount",
    (input ((handle "pCommandBuffers" .commandBuffer).optional.countedBy
      "commandBufferCount")).destroying]
  route := .globalState

/-- Begins to record a command buffer. -/
def beginCommandBuffer : CallDescriptor where
  opcode := 20090
  name := "vkBeginCommandBuffer"
  params := [
    object "commandBuffer" .commandBuffer, input (struct "pBeginInfo" .commandBufferBeginInfo)]
  result := some .i32
  route := .globalState

/-- Ends the recording of a command buffer. -/
def endCommandBuffer : CallDescriptor where
  opcode := 20091
  name := "vkEndCommandBuffer"
  params := [object "commandBuffer" .commandBuffer]
  result := some .i32

end CallStream.CallDescriptor
