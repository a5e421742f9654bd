import CallStream.Names.Enums
import CallStream.Names.Flags
import CallStream.Schema.Basic

/-!
# Structures of devices, memory and synchronisation

The layouts of the structures with which a guest sets up instances and devices, submits work,
allocates memory and creates fences and semaphores.
-/

namespace CallStream.StructSchema

open FieldSpec

/-- The guest's functions that allocate memory. They mean nothing to the host but are sent as
words. -/
def allocationCallbacks : StructSchema where
  name := "VkAllocationCallbacks"
  tag := none
  fields := [
    (u64 "pUserData").optional, u64 "pfnAllocation", u64 "pfnReallocation", u64 "pfnFree",
    u64 "pfnInternalAllocation", u64 "pfnInternalFree"]

/-- The names and versions of an application and its engine, both of them optional. -/
def applicationInfo : StructSchema where
  name := "VkApplicationInfo"
  tag := some 0
  fields := [
    (text "pApplicationName").optional, u32 "applicationVersion", (text "pEngineName").optional,
    u32 "engineVersion", u32 "apiVersion"]

/-- How an instance is created: its layers and extensions are counted lists of texts. -/
def instanceCreateInfo : StructSchema where
  name := "VkInstanceCreateInfo"
  tag := some 1
  fields := [
    u32 "flags", (struct "pApplicationInfo" .applicationInfo).optional, u32 "enabledLayerCount",
    (text "ppEnabledLayerNames").countedBy "enabledLayerCount", u32 "enabledExtensionCount",
    (text "ppEnabledExtensionNames").countedBy "enabledExtensionCount"]

/-- The queues of one family that a device is to have, by their priorities. -/
def deviceQueueCreateInfo : StructSchema where
  name := "VkDeviceQueueCreateInfo"
  tag := some 2
  fields := [
    flags "flags" .deviceQueueCreate, u32 "queueFamilyIndex", u32 "queueCount",
    (f32 "pQueuePriorities").countedBy "queueCount"]

/-- The features that a device has or is to have. -/
def physicalDeviceFeatures : StructSchema where
  name := "VkPhysicalDeviceFeatures"
  tag := none
  fields := [
    bool32 "robustBufferAccess", bool32 "fullDrawIndexUint32", bool32 "imageCubeArray",
    bool32 "independentBlend", bool32 "geometryShader", bool32 "tessellationShader",
    bool32 "sampleRateShading", bool32 "dualSrcBlend", bool32 "logicOp",
    bool32 "multiDrawIndirect", bool32 "drawIndirectFirstInstance", bool32 "depthClamp",
    bool32 "depthBiasClamp", bool32 "fillModeNonSolid", bool32 "depthBounds", bool32 "wideLines",
    bool32 "largePoints", bool32 "alphaToOne", bool32 "multiViewport", bool32 "samplerAnisotropy",
    bool32 "textureCompressionETC2", bool32 "textureCompressionASTC_LDR",
    bool32 "textureCompressionBC", bool32 "occlusionQueryPrecise",
    bool32 "pipelineStatisticsQuery", bool32 "vertexPipelineStoresAndAtomics",
    bool32 "fragmentStoresAndAtomics", bool32 "shaderTessellationAndGeometryPointSize",
    bool32 "shaderImageGatherExtended", bool32 "shaderStorageImageExtendedFormats",
    bool32 "shaderStorageImageMultisample", bool32 "shaderStorageImageReadWithoutFormat",
    bool32 "shaderStorageImageWriteWithoutFormat",
    bool32 "shaderUniformBufferArrayDynamicIndexing",
    bool32 "shaderSampledImageArrayDynamicIndexing",
    bool32 "shaderStorageBufferArrayDynamicIndexing",
    bool32 "shaderStorageImageArrayDynamicIndexing", bool32 "shaderClipDistance",
    bool32 "shaderCullDistance", bool32 "shaderFloat64", bool32 "shaderInt64",
    bool32 "shaderInt16", bool32 "shaderResourceResidency", bool32 "shaderResourceMinLod",
    bool32 "sparseBinding", bool32 "sparseResidencyBuffer", bool32 "sparseResidencyImage2D",
    bool32 "sparseResidencyImage3D", bool32 "sparseResidency2Samples",
    bool32 "sparseResidency4Samples", bool32 "sparseResidency8Samples",
    bool32 "sparseResidency16Samples", bool32 "sparseResidencyAliased",
    bool32 "variableMultisampleRate", bool32 "inheritedQueries"]

/-- How a device is created: its queues, layers, extensions and features. -/
def deviceCreateInfo : StructSchema where
  name := "VkDeviceCreateInfo"
  tag := some 3
  fields := [
    u32 "flags", u32 "queueCreateInfoCount",
    (struct "pQueueCreateInfos" .deviceQueueCreateInfo).countedBy "queueCreateInfoCount",
    u32 "enabledLayerCount", (text "ppEnabledLayerNames").countedBy "enabledLayerCount",
    u32 "enabledExtensionCount",
    (text "ppEnabledExtensionNames").countedBy "enabledExtensionCount",
    (struct "pEnabledFeatures" .physicalDeviceFeatures).optional]

/-- What is submitted to a queue. The same number counts the semaphores to wait for and the stages
that wait for them. -/
def submitInfo : StructSchema where
  name := "VkSubmitInfo"
  tag := some 4
  fields := [
    u32 "waitSemaphoreCount",
    (handle "pWaitSemaphores" .semaphore).countedBy "waitSemaphoreCount",
    (flags "pWaitDstStageMask" .pipelineStage).countedBy "waitSemaphoreCount",
    u32 "commandBufferCount",
    (handle "pCommandBuffers" .commandBuffer).countedBy "commandBufferCount",
    u32 "signalSemaphoreCount",
    (handle "pSignalSemaphores" .semaphore).countedBy "signalSemaphoreCount"]

/-- How much memory is allocated, and of which type. -/
def memoryAllocateInfo : StructSchema where
  name := "VkMemoryAllocateInfo"
  tag := some 5
  fields := [u64 "allocationSize", u32 "memoryTypeIndex"]

/-- A range of a memory object, which is flushed or invalidated. -/
def mappedMemoryRange : StructSchema where
  name := "VkMappedMemoryRange"
  tag := some 6
  fields := [handle "memory" .deviceMemory, u64 "offset", u64 "size"]

/-- What images and buffers of a format can be used for. -/
def formatProperties : StructSchema where
  name := "VkFormatProperties"
  tag := none
  fields := [
    flags "linearTilingFeatures" .formatFeature, flags "optimalTilingFeatures" .formatFeature,
    flags "bufferFeatures" .formatFeature]

/-- How much memory a resource needs, and of which types. -/
def memoryRequirements : StructSchema where
  name := "VkMemoryRequirements"
  tag := none
  fields := [u64 "size", u64 "alignment", u32 "memoryTypeBits"]

/-- How a fence is created. -/
def fenceCreateInfo : StructSchema where
  name := "VkFenceCreateInfo"
  tag := some 8
  fields := [flags "flags" .fenceCreate]

/-- How a semaphore is created. -/
def semaphoreCreateInfo : StructSchema where
  name := "VkSemaphoreCreateInfo"
  tag := some 9
  fields := [u32 "flags"]

end CallStream.StructSchema
