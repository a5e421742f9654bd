import CallStream.Schema.Command
import CallStream.Schema.Descriptor
import CallStream.Schema.Device
import CallStream.Schema.Pipeline
import CallStream.Schema.RenderPass
import CallStream.Schema.Resource

/-!
# The built-in structures

Every structure of the graphics API that a call of the stream can carry.
-/

namespace CallStream.StructSchema

/-- The structures that calls carry, each after those it contains. -/
def builtin : List StructSchema :=
  [allocationCallbacks, applicationInfo, instanceCreateInfo, deviceQueueCreateInfo,
    physicalDeviceFeatures, deviceCreateInfo, submitInfo, memoryAllocateInfo, mappedMemoryRange,
    formatProperties, memoryRequirements, fenceCreateInfo, semaphoreCreateInfo,
    bufferCreateInfo, extent2D, extent3D, offset2D, offset3D, rect2D, imageCreateInfo,
    componentMapping, imageSubresourceRange, imageSubresourceLayers, imageViewCreateInfo,
    shaderModuleCreateInfo, pipelineCacheCreateInfo, specializationMapEntry, specializationInfo,
    pipelineShaderStageCreateInfo, vertexInputBindingDescription,
    vertexInputAttributeDescription, pipelineVertexInputStateCreateInfo,
    pipelineInputAssemblyStateCreateInfo, pipelineTessellationStateCreateInfo, viewport,
    pipelineViewportStateCreateInfo, pipelineRasterizationStateCreateInfo,
    pipelineMultisampleStateCreateInfo, stencilOpState, pipelineDepthStencilStateCreateInfo,
    pipelineColorBlendAttachmentState, pipelineColorBlendStateCreateInfo,
    pipelineDynamicStateCreateInfo, graphicsPipelineCreateInfo, pushConstantRange,
    pipelineLayoutCreateInfo, samplerCreateInfo, descriptorSetLayoutBinding,
    descriptorSetLayoutCreateInfo, descriptorPoolSize, descriptorPoolCreateInfo,
    descriptorSetAllocateInfo, descriptorImageInfo, descriptorBufferInfo, writeDescriptorSet,
    copyDescriptorSet, framebufferCreateInfo, attachmentDescription, attachmentReference,
    subpassDescription, subpassDependency, renderPassCreateInfo, commandPoolCreateInfo,
    commandBufferAllocateInfo, commandBufferInheritanceInfo, commandBufferBeginInfo,
    clearColorValue, clearValue, renderPassBeginInfo, bufferMemoryBarrier, imageMemoryBarrier,
    memoryBarrier, bufferImageCopy, clearAttachment, clearRect]

/-- The built-in structure with a given name. -/
def ofName? (name : String) : Option StructSchema := builtin.find? (·.name == name)

end CallStream.StructSchema
