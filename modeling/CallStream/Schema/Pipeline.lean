import CallStream.Names.Enums
import CallStream.Names.Flags
import CallStream.Schema.Resource

/-!
# Structures of pipelines

The layouts of the structures that describe shaders, the stages of a graphics pipeline, and
samplers.
-/

namespace CallStream.StructSchema

open FieldSpec

/-- How a shader module is created. Its code is sized in bytes and sent in words. -/
def shaderModuleCreateInfo : StructSchema where
  name := "VkShaderModuleCreateInfo"
  tag := some 16
  fields := [u32 "flags", size "codeSize", (u32 "pCode").countedByUnits "codeSize" 4]

/-- How a pipeline cache is created, with the bytes of an earlier one. -/
def pipelineCacheCreateInfo : StructSchema where
  name := "VkPipelineCacheCreateInfo"
  tag := some 17
  fields := [
    u32 "flags", size "initialDataSize", (int "pInitialData" .u8).countedBy "initialDataSize"]

/-- Where the value of one constant of a shader lies. -/
def specializationMapEntry : StructSchema where
  name := "VkSpecializationMapEntry"
  tag := none
  fields := [u32 "constantID", u32 "offset", size "size"]

/-- The values of a shader's constants. -/
def specializationInfo : StructSchema where
  name := "VkSpecializationInfo"
  tag := none
  fields := [
    u32 "mapEntryCount", (struct "pMapEntries" .specializationMapEntry).countedBy "mapEntryCount",
    size "dataSize", (int "pData" .u8).countedBy "dataSize"]

/-- One shader of a pipeline. -/
def pipelineShaderStageCreateInfo : StructSchema where
  name := "VkPipelineShaderStageCreateInfo"
  tag := some 18
  fields := [
    u32 "flags", flags "stage" .shaderStage, handle "module" .shaderModule, text "pName",
    (struct "pSpecializationInfo" .specializationInfo).optional]

/-- A buffer of vertices. -/
def vertexInputBindingDescription : StructSchema where
  name := "VkVertexInputBindingDescription"
  tag := none
  fields := [u32 "binding", u32 "stride", enum "inputRate" .vertexInputRate]

/-- Where an attribute lies in a vertex. -/
def vertexInputAttributeDescription : StructSchema where
  name := "VkVertexInputAttributeDescription"
  tag := none
  fields := [u32 "location", u32 "binding", enum "format" .format, u32 "offset"]

/-- How a pipeline reads vertices. -/
def pipelineVertexInputStateCreateInfo : StructSchema where
  name := "VkPipelineVertexInputStateCreateInfo"
  tag := some 19
  fields := [
    u32 "flags", u32 "vertexBindingDescriptionCount",
    (struct "pVertexBindingDescriptions" .vertexInputBindingDescription).countedBy
      "vertexBindingDescriptionCount",
    u32 "vertexAttributeDescriptionCount",
    (struct "pVertexAttributeDescriptions" .vertexInputAttributeDescription).countedBy
      "vertexAttributeDescriptionCount"]

/-- How a pipeline makes primitives of vertices. -/
def pipelineInputAssemblyStateCreateInfo : StructSchema where
  name := "VkPipelineInputAssemblyStateCreateInfo"
  tag := some 20
  fields := [u32 "flags", enum "topology" .primitiveTopology, bool32 "primitiveRestartEnable"]

/-- How a pipeline tessellates patches. -/
def pipelineTessellationStateCreateInfo : StructSchema where
  name := "VkPipelineTessellationStateCreateInfo"
  tag := some 21
  fields := [u32 "flags", u32 "patchControlPoints"]

/-- A viewport and its range of depths. -/
def viewport : StructSchema where
  name := "VkViewport"
  tag := none
  fields := [f32 "x", f32 "y", f32 "width", f32 "height", f32 "minDepth", f32 "maxDepth"]

/-- The viewports and scissors of a pipeline; both are absent where commands set them. -/
def pipelineViewportStateCreateInfo : StructSchema where
  name := "VkPipelineViewportStateCreateInfo"
  tag := some 22
  fields := [
    u32 "flags", u32 "viewportCount",
    (struct "pViewports" .viewport).optional.countedBy "viewportCount", u32 "scissorCount",
    (struct "pScissors" .rect2D).optional.countedBy "scissorCount"]

/-- How a pipeline makes fragments of primitives. -/
def pipelineRasterizationStateCreateInfo : StructSchema where
  name := "VkPipelineRasterizationStateCreateInfo"
  tag := some 23
  fields := [
    u32 "flags", bool32 "depthClampEnable", bool32 "rasterizerDiscardEnable",
    enum "polygonMode" .polygonMode, flags "cullMode" .cullMode, enum "frontFace" .frontFace,
    bool32 "depthBiasEnable", f32 "depthBiasConstantFactor", f32 "depthBiasClamp",
    f32 "depthBiasSlopeFactor", f32 "lineWidth"]

/-- How a pipeline samples fragments. The number of samples says how many words the mask takes. -/
def pipelineMultisampleStateCreateInfo : StructSchema where
  name := "VkPipelineMultisampleStateCreateInfo"
  tag := some 24
  fields := [
    u32 "flags", flags "rasterizationSamples" .sampleCount, bool32 "sampleShadingEnable",
    f32 "minSampleShading", (u32 "pSampleMask").optional.countedByUnits "rasterizationSamples" 32,
    bool32 "alphaToCoverageEnable", bool32 "alphaToOneEnable"]

/-- How the stencil values of one side of polygons are tested. -/
def stencilOpState : StructSchema where
  name := "VkStencilOpState"
  tag := none
  fields := [
    enum "failOp" .stencilOp, enum "passOp" .stencilOp, enum "depthFailOp" .stencilOp,
    enum "compareOp" .compareOp, u32 "compareMask", u32 "writeMask", u32 "reference"]

/-- How a pipeline tests depth and stencil values. -/
def pipelineDepthStencilStateCreateInfo : StructSchema where
  name := "VkPipelineDepthStencilStateCreateInfo"
  tag := some 25
  fields := [
    u32 "flags", bool32 "depthTestEnable", bool32 "depthWriteEnable",
    enum "depthCompareOp" .compareOp, bool32 "depthBoundsTestEnable", bool32 "stencilTestEnable",
    struct "front" .stencilOpState, struct "back" .stencilOpState, f32 "minDepthBounds",
    f32 "maxDepthBounds"]

/-- How the colors of one attachment are blended. -/
def pipelineColorBlendAttachmentState : StructSchema where
  name := "VkPipelineColorBlendAttachmentState"
  tag := none
  fields := [
    bool32 "blendEnable", enum "srcColorBlendFactor" .blendFactor,
    enum "dstColorBlendFactor" .blendFactor, enum "colorBlendOp" .blendOp,
    enum "srcAlphaBlendFactor" .blendFactor, enum "dstAlphaBlendFactor" .blendFactor,
    enum "alphaBlendOp" .blendOp, flags "colorWriteMask" .colorComponent]

/-- How a pipeline blends colors. -/
def pipelineColorBlendStateCreateInfo : StructSchema where
  name := "VkPipelineColorBlendStateCreateInfo"
  tag := some 26
  fields := [
    u32 "flags", bool32 "logicOpEnable", enum "logicOp" .logicOp, u32 "attachmentCount",
    (struct "pAttachments" .pipelineColorBlendAttachmentState).countedBy "attachmentCount",
    (f32 "blendConstants").times 4]

/-- The parts of a pipeline's state that commands set. -/
def pipelineDynamicStateCreateInfo : StructSchema where
  name := "VkPipelineDynamicStateCreateInfo"
  tag := some 27
  fields := [
    u32 "flags", u32 "dynamicStateCount",
    (enum "pDynamicStates" .dynamicState).countedBy "dynamicStateCount"]

/-- How a graphics pipeline is created: its shaders, the state of its stages, and what it is used
with. -/
def graphicsPipelineCreateInfo : StructSchema where
  name := "VkGraphicsPipelineCreateInfo"
  tag := some 28
  fields := [
    u32 "flags", u32 "stageCount",
    (struct "pStages" .pipelineShaderStageCreateInfo).countedBy "stageCount",
    (struct "pVertexInputState" .pipelineVertexInputStateCreateInfo).optional,
    (struct "pInputAssemblyState" .pipelineInputAssemblyStateCreateInfo).optional,
    (struct "pTessellationState" .pipelineTessellationStateCreateInfo).optional,
    (struct "pViewportState" .pipelineViewportStateCreateInfo).optional,
    (struct "pRasterizationState" .pipelineRasterizationStateCreateInfo).optional,
    (struct "pMultisampleState" .pipelineMultisampleStateCreateInfo).optional,
    (struct "pDepthStencilState" .pipelineDepthStencilStateCreateInfo).optional,
    (struct "pColorBlendState" .pipelineColorBlendStateCreateInfo).optional,
    (struct "pDynamicState" .pipelineDynamicStateCreateInfo).optional,
    handle "layout" .pipelineLayout, handle "renderPass" .renderPass, u32 "subpass",
    handle "basePipelineHandle" .pipeline, i32 "basePipelineIndex"]

/-- The part of the push constants that some stages can read. -/
def pushConstantRange : StructSchema where
  name := "VkPushConstantRange"
  tag := none
  fields := [flags "stageFlags" .shaderStage, u32 "offset", u32 "size"]

/-- How a layout of pipelines is created. -/
def pipelineLayoutCreateInfo : StructSchema where
  name := "VkPipelineLayoutCreateInfo"
  tag := some 30
  fields := [
    u32 "flags", u32 "setLayoutCount",
    (handle "pSetLayouts" .descriptorSetLayout).countedBy "setLayoutCount",
    u32 "pushConstantRangeCount",
    (struct "pPushConstantRanges" .pushConstantRange).countedBy "pushConstantRangeCount"]

/-- How a sampler is created. -/
def samplerCreateInfo : StructSchema where
  name := "VkSamplerCreateInfo"
  tag := some 31
  fields := [
    u32 "flags", enum "magFilter" .filter, enum "minFilter" .filter,
    enum "mipmapMode" .samplerMipmapMode, enum "addressModeU" .samplerAddressMode,
    enum "addressModeV" .samplerAddressMode, enum "addressModeW" .samplerAddressMode,
    f32 "mipLodBias", bool32 "anisotropyEnable", f32 "maxAnisotropy", bool32 "compareEnable",
    enum "compareOp" .compareOp, f32 "minLod", f32 "maxLod", enum "borderColor" .borderColor,
    bool32 "unnormalizedCoordinates"]

end CallStream.StructSchema
