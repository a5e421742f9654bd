import CallStream.Call.Basic
import CallStream.Schema.RenderPass

/-!
# Calls on render passes

The calls that create and destroy framebuffers and render passes.
-/

namespace CallStream.CallDescriptor

open FieldSpec ParamSpec

/-- Creates a framebuffer. -/
def createFramebuffer : CallDescriptor where
  opcode := 20080
  name := "vkCreateFramebuffer"
  params := [
    object "device" .device, createInfo .framebufferCreateInfo, allocator,
    created "pFramebuffer" .framebuffer]
  result := some .i32

/-- Destroys a framebuffer. -/
def destroyFramebuffer : CallDescriptor where
  opcode := 20081
  name := "vkDestroyFramebuffer"
  params := [object "device" .device, destroyed "framebuffer" .framebuffer, allocator]

/-- Creates a render pass. -/
def createRenderPass : CallDescriptor where
  opcode := 20082
  name := "vkCreateRenderPass"
  params := [
    object "device" .device, createInfo .renderPassCreateInfo, allocator,
    created "pRenderPass" .renderPass]
  result := some .i32
  route := .globalState

/-- Destroys a render pass. -/
def destroyRenderPass : CallDescriptor where
  opcode := 20083
  name := "vkDestroyRenderPass"
  params := [object "device" .device, destroyed "renderPass" .renderPass, allocator]

end CallStream.CallDescriptor
