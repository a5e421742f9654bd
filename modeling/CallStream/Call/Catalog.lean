import CallStream.Call.Command
import CallStream.Call.CommandBuffer
import CallStream.Call.Descriptor
import CallStream.Call.Device
import CallStream.Call.Memory
import CallStream.Call.Pipeline
import CallStream.Call.RenderPass
import CallStream.Call.Resource
import CallStream.Call.Synchronization

/-!
# The calls of the stream

Every call that a stream can carry, and the call of an opcode.

## Main results

- `ofOpcode?_opcode`: no two calls share an opcode.
-/

namespace CallStream.CallDescriptor

/-- The calls of the stream, by rising opcode. -/
def catalog : List CallDescriptor :=
  [createInstance, destroyInstance, enumeratePhysicalDevices, getPhysicalDeviceFormatProperties,
    createDevice, destroyDevice, getDeviceQueue, queueSubmit, queueWaitIdle, deviceWaitIdle,
    allocateMemory, freeMemory, flushMappedMemoryRanges, invalidateMappedMemoryRanges,
    bindBufferMemory, bindImageMemory, getBufferMemoryRequirements, getImageMemoryRequirements,
    createFence, destroyFence, resetFences, getFenceStatus, waitForFences, createSemaphore,
    destroySemaphore, createBuffer, destroyBuffer, createImage, destroyImage, createImageView,
    destroyImageView, createShaderModule, destroyShaderModule, createPipelineCache,
    destroyPipelineCache, createGraphicsPipelines, destroyPipeline, createPipelineLayout,
    destroyPipelineLayout, createSampler, destroySampler, createDescriptorSetLayout,
    destroyDescriptorSetLayout, createDescriptorPool, destroyDescriptorPool,
    allocateDescriptorSets, updateDescriptorSets, createFramebuffer, destroyFramebuffer,
    createRenderPass, destroyRenderPass, createCommandPool, destroyCommandPool,
    allocateCommandBuffers, freeCommandBuffers, beginCommandBuffer, endCommandBuffer,
    cmdBindPipeline, cmdSetViewport, cmdSetScissor, cmdBindDescriptorSets, cmdBindIndexBuffer,
    cmdBindVertexBuffers, cmdDraw, cmdDrawIndexed, cmdCopyBufferToImage, cmdCopyImageToBuffer,
    cmdClearColorImage, cmdClearAttachments, cmdPipelineBarrier, cmdBeginRenderPass,
    cmdEndRenderPass]

/-- The call of an opcode. -/
def ofOpcode? (opcode : UInt32) : Option CallDescriptor := catalog.find? (·.opcode == opcode)

/-- No two calls share an opcode. -/
theorem catalog_opcodes_nodup : (catalog.map (·.opcode)).Nodup := by decide

/-- A call found by an opcode is in the catalog and has that opcode. -/
theorem ofOpcode?_eq_some {opcode : UInt32} {call : CallDescriptor}
    (h : ofOpcode? opcode = some call) : call ∈ catalog ∧ call.opcode = opcode :=
  ⟨List.mem_of_find?_eq_some h, by simpa using List.find?_some h⟩

/-- A call of the catalog is found by its opcode, since no two share one. -/
theorem ofOpcode?_opcode {call : CallDescriptor} (h : call ∈ catalog) :
    ofOpcode? call.opcode = some call := by
  have hfound (calls : List CallDescriptor) (hdistinct : (calls.map (·.opcode)).Nodup)
      (hmem : call ∈ calls) : calls.find? (·.opcode == call.opcode) = some call := by
    induction calls with
    | nil => cases hmem
    | cons first rest ih =>
      simp only [List.map_cons, List.nodup_cons] at hdistinct
      rcases List.mem_cons.mp hmem with rfl | hlater
      · simp
      · have hne : first.opcode ≠ call.opcode := fun hopcode =>
          hdistinct.1 (hopcode ▸ List.mem_map_of_mem hlater)
        simp [hne, ih hdistinct.2 hlater]
  exact hfound catalog catalog_opcodes_nodup h

end CallStream.CallDescriptor
