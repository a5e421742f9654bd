import CallStream.Call.Basic
import CallStream.Names.Enums
import CallStream.Names.Flags
import CallStream.Schema.Command
import CallStream.Schema.Pipeline
import CallStream.Schema.Resource

/-!
# Recorded commands

The commands that are recorded into a command buffer.
-/

namespace CallStream.CallDescriptor

open FieldSpec ParamSpec

/-- Makes a pipeline the current one. -/
def cmdBindPipeline : CallDescriptor where
  opcode := 20093
  name := "vkCmdBindPipeline"
  params := [
    object "commandBuffer" .commandBuffer, input (enum "pipelineBindPoint" .pipelineBindPoint),
    object "pipeline" .pipeline]
  route := .globalState
  isRecorded := true

/-- Sets viewports. -/
def cmdSetViewport : CallDescriptor where
  opcode := 20094
  name := "vkCmdSetViewport"
  params := [
    object "commandBuffer" .commandBuffer, number "firstViewport", number "viewportCount",
    input ((struct "pViewports" .viewport).countedBy "viewportCount")]
  isRecorded := true

/-- Sets scissors. -/
def cmdSetScissor : CallDescriptor where
  opcode := 20095
  name := "vkCmdSetScissor"
  params := [
    object "commandBuffer" .commandBuffer, number "firstScissor", number "scissorCount",
    input ((struct "pScissors" .rect2D).countedBy "scissorCount")]
  isRecorded := true

/-- Makes descriptor sets the current ones, with the offsets of their dynamic buffers. -/
def cmdBindDescriptorSets : CallDescriptor where
  opcode := 20103
  name := "vkCmdBindDescriptorSets"
  params := [
    object "commandBuffer" .commandBuffer, input (enum "pipelineBindPoint" .pipelineBindPoint),
    object "layout" .pipelineLayout, number "firstSet", number "descriptorSetCount",
    input ((handle "pDescriptorSets" .descriptorSet).countedBy "descriptorSetCount"),
    number "dynamicOffsetCount", input ((u32 "pDynamicOffsets").countedBy "dynamicOffsetCount")]
  route := .globalState
  isRecorded := true

/-- Makes a buffer the one that indices are read from. -/
def cmdBindIndexBuffer : CallDescriptor where
  opcode := 20104
  name := "vkCmdBindIndexBuffer"
  params := [
    object "commandBuffer" .commandBuffer, object "buffer" .buffer, input (u64 "offset"),
    input (enum "indexType" .indexType)]
  isRecorded := true

/-- Makes buffers those that vertices are read from. One number counts the buffers and their
offsets. -/
def cmdBindVertexBuffers : CallDescriptor where
  opcode := 20105
  name := "vkCmdBindVertexBuffers"
  params := [
    object "commandBuffer" .commandBuffer, number "firstBinding", number "bindingCount",
    input ((handle "pBuffers" .buffer).countedBy "bindingCount"),
    input ((u64 "pOffsets").countedBy "bindingCount")]
  isRecorded := true

/-- Draws vertices. -/
def cmdDraw : CallDescriptor where
  opcode := 20106
  name := "vkCmdDraw"
  params := [
    object "commandBuffer" .commandBuffer, number "vertexCount", number "instanceCount",
    number "firstVertex", number "firstInstance"]
  isRecorded := true

/-- Draws vertices by their indices. The offset of the vertices may be negative. -/
def cmdDrawIndexed : CallDescriptor where
  opcode := 20107
  name := "vkCmdDrawIndexed"
  params := [
    object "commandBuffer" .commandBuffer, number "indexCount", number "instanceCount",
    number "firstIndex", input (i32 "vertexOffset"), number "firstInstance"]
  isRecorded := true

/-- Copies parts of a buffer into an image. -/
def cmdCopyBufferToImage : CallDescriptor where
  opcode := 20115
  name := "vkCmdCopyBufferToImage"
  params := [
    object "commandBuffer" .commandBuffer, object "srcBuffer" .buffer, object "dstImage" .image,
    input (enum "dstImageLayout" .imageLayout), number "regionCount",
    input ((struct "pRegions" .bufferImageCopy).countedBy "regionCount")]
  route := .globalState
  isRecorded := true

/-- Copies parts of an image into a buffer. -/
def cmdCopyImageToBuffer : CallDescriptor where
  opcode := 20116
  name := "vkCmdCopyImageToBuffer"
  params := [
    object "commandBuffer" .commandBuffer, object "srcImage" .image,
    input (enum "srcImageLayout" .imageLayout), object "dstBuffer" .buffer, number "regionCount",
    input ((struct "pRegions" .bufferImageCopy).countedBy "regionCount")]
  route := .globalState
  isRecorded := true

/-- Clears an image to a color, outside of render passes. -/
def cmdClearColorImage : CallDescriptor where
  opcode := 20119
  name := "vkCmdClearColorImage"
  params := [
    object "commandBuffer" .commandBuffer, object "image" .image,
    input (enum "imageLayout" .imageLayout), input (struct "pColor" .clearColorValue),
    number "rangeCount", input ((struct "pRanges" .imageSubresourceRange).countedBy "rangeCount")]
  isRecorded := true

/-- Clears parts of attachments within a render pass. -/
def cmdClearAttachments : CallDescriptor where
  opcode := 20121
  name := "vkCmdClearAttachments"
  params := [
    object "commandBuffer" .commandBuffer, number "attachmentCount",
    input ((struct "pAttachments" .clearAttachment).countedBy "attachmentCount"),
    number "rectCount", input ((struct "pRects" .clearRect).countedBy "rectCount")]
  isRecorded := true

/-- Makes later commands wait for earlier ones, and orders their accesses to memory. -/
def cmdPipelineBarrier : CallDescriptor where
  opcode := 20126
  name := "vkCmdPipelineBarrier"
  params := [
    object "commandBuffer" .commandBuffer, input (flags "srcStageMask" .pipelineStage),
    input (flags "dstStageMask" .pipelineStage), input (flags "dependencyFlags" .dependency),
    number "memoryBarrierCount",
    input ((struct "pMemoryBarriers" .memoryBarrier).countedBy "memoryBarrierCount"),
    number "bufferMemoryBarrierCount",
    input ((struct "pBufferMemoryBarriers" .bufferMemoryBarrier).countedBy
      "bufferMemoryBarrierCount"),
    number "imageMemoryBarrierCount",
    input ((struct "pImageMemoryBarriers" .imageMemoryBarrier).countedBy "imageMemoryBarrierCount")]
  route := .globalState
  isRecorded := true

/-- Begins a render pass. -/
def cmdBeginRenderPass : CallDescriptor where
  opcode := 20133
  name := "vkCmdBeginRenderPass"
  params := [
    object "commandBuffer" .commandBuffer, input (struct "pRenderPassBegin" .renderPassBeginInfo),
    input (enum "contents" .subpassContents)]
  isRecorded := true

/-- Ends a render pass. -/
def cmdEndRenderPass : CallDescriptor where
  opcode := 20135
  name := "vkCmdEndRenderPass"
  params := [object "commandBuffer" .commandBuffer]
  isRecorded := true

end CallStream.CallDescriptor
