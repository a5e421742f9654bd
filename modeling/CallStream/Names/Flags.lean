import CallStream.Names.Table

/-!
# Flag bits

The names of the graphics API's flag bits, in the order in which a mask lists them.
-/

namespace CallStream.FlagTable

/-- The numbers of samples of a texel. -/
def sampleCount : FlagTable where
  name := "VkSampleCountFlagBits"
  entries := [
    (0x1, "VK_SAMPLE_COUNT_1_BIT"),
    (0x2, "VK_SAMPLE_COUNT_2_BIT"),
    (0x4, "VK_SAMPLE_COUNT_4_BIT"),
    (0x8, "VK_SAMPLE_COUNT_8_BIT"),
    (0x10, "VK_SAMPLE_COUNT_16_BIT"),
    (0x20, "VK_SAMPLE_COUNT_32_BIT"),
    (0x40, "VK_SAMPLE_COUNT_64_BIT")]

/-- The stages that have shaders. -/
def shaderStage : FlagTable where
  name := "VkShaderStageFlagBits"
  entries := [
    (0x1, "VK_SHADER_STAGE_VERTEX_BIT"),
    (0x2, "VK_SHADER_STAGE_TESSELLATION_CONTROL_BIT"),
    (0x4, "VK_SHADER_STAGE_TESSELLATION_EVALUATION_BIT"),
    (0x8, "VK_SHADER_STAGE_GEOMETRY_BIT"),
    (0x10, "VK_SHADER_STAGE_FRAGMENT_BIT"),
    (0x20, "VK_SHADER_STAGE_COMPUTE_BIT")]

/-- What a buffer is for. -/
def bufferUsage : FlagTable where
  name := "VkBufferUsageFlagBits"
  entries := [
    (0x1, "VK_BUFFER_USAGE_TRANSFER_SRC_BIT"),
    (0x2, "VK_BUFFER_USAGE_TRANSFER_DST_BIT"),
    (0x4, "VK_BUFFER_USAGE_UNIFORM_TEXEL_BUFFER_BIT"),
    (0x8, "VK_BUFFER_USAGE_STORAGE_TEXEL_BUFFER_BIT"),
    (0x10, "VK_BUFFER_USAGE_UNIFORM_BUFFER_BIT"),
    (0x20, "VK_BUFFER_USAGE_STORAGE_BUFFER_BIT"),
    (0x40, "VK_BUFFER_USAGE_INDEX_BUFFER_BIT"),
    (0x80, "VK_BUFFER_USAGE_VERTEX_BUFFER_BIT"),
    (0x100, "VK_BUFFER_USAGE_INDIRECT_BUFFER_BIT")]

/-- What an image is for. -/
def imageUsage : FlagTable where
  name := "VkImageUsageFlagBits"
  entries := [
    (0x1, "VK_IMAGE_USAGE_TRANSFER_SRC_BIT"),
    (0x2, "VK_IMAGE_USAGE_TRANSFER_DST_BIT"),
    (0x4, "VK_IMAGE_USAGE_SAMPLED_BIT"),
    (0x8, "VK_IMAGE_USAGE_STORAGE_BIT"),
    (0x10, "VK_IMAGE_USAGE_COLOR_ATTACHMENT_BIT"),
    (0x20, "VK_IMAGE_USAGE_DEPTH_STENCIL_ATTACHMENT_BIT"),
    (0x40, "VK_IMAGE_USAGE_TRANSIENT_ATTACHMENT_BIT"),
    (0x80, "VK_IMAGE_USAGE_INPUT_ATTACHMENT_BIT")]

/-- The aspects of an image: its color, its depth, its stencil and its planes. -/
def imageAspect : FlagTable where
  name := "VkImageAspectFlagBits"
  entries := [
    (0x1, "VK_IMAGE_ASPECT_COLOR_BIT"),
    (0x2, "VK_IMAGE_ASPECT_DEPTH_BIT"),
    (0x4, "VK_IMAGE_ASPECT_STENCIL_BIT"),
    (0x8, "VK_IMAGE_ASPECT_METADATA_BIT")]

/-- The ways of accessing memory that a barrier orders. -/
def access : FlagTable where
  name := "VkAccessFlagBits"
  entries := [
    (0x1, "VK_ACCESS_INDIRECT_COMMAND_READ_BIT"),
    (0x2, "VK_ACCESS_INDEX_READ_BIT"),
    (0x4, "VK_ACCESS_VERTEX_ATTRIBUTE_READ_BIT"),
    (0x8, "VK_ACCESS_UNIFORM_READ_BIT"),
    (0x10, "VK_ACCESS_INPUT_ATTACHMENT_READ_BIT"),
    (0x20, "VK_ACCESS_SHADER_READ_BIT"),
    (0x40, "VK_ACCESS_SHADER_WRITE_BIT"),
    (0x80, "VK_ACCESS_COLOR_ATTACHMENT_READ_BIT"),
    (0x100, "VK_ACCESS_COLOR_ATTACHMENT_WRITE_BIT"),
    (0x200, "VK_ACCESS_DEPTH_STENCIL_ATTACHMENT_READ_BIT"),
    (0x400, "VK_ACCESS_DEPTH_STENCIL_ATTACHMENT_WRITE_BIT"),
    (0x800, "VK_ACCESS_TRANSFER_READ_BIT"),
    (0x1000, "VK_ACCESS_TRANSFER_WRITE_BIT"),
    (0x2000, "VK_ACCESS_HOST_READ_BIT"),
    (0x4000, "VK_ACCESS_HOST_WRITE_BIT"),
    (0x8000, "VK_ACCESS_MEMORY_READ_BIT"),
    (0x10000, "VK_ACCESS_MEMORY_WRITE_BIT")]

/-- The stages of a pipeline that a barrier or a semaphore waits for. -/
def pipelineStage : FlagTable where
  name := "VkPipelineStageFlagBits"
  entries := [
    (0x1, "VK_PIPELINE_STAGE_TOP_OF_PIPE_BIT"),
    (0x2, "VK_PIPELINE_STAGE_DRAW_INDIRECT_BIT"),
    (0x4, "VK_PIPELINE_STAGE_VERTEX_INPUT_BIT"),
    (0x8, "VK_PIPELINE_STAGE_VERTEX_SHADER_BIT"),
    (0x10, "VK_PIPELINE_STAGE_TESSELLATION_CONTROL_SHADER_BIT"),
    (0x20, "VK_PIPELINE_STAGE_TESSELLATION_EVALUATION_SHADER_BIT"),
    (0x40, "VK_PIPELINE_STAGE_GEOMETRY_SHADER_BIT"),
    (0x80, "VK_PIPELINE_STAGE_FRAGMENT_SHADER_BIT"),
    (0x100, "VK_PIPELINE_STAGE_EARLY_FRAGMENT_TESTS_BIT"),
    (0x200, "VK_PIPELINE_STAGE_LATE_FRAGMENT_TESTS_BIT"),
    (0x400, "VK_PIPELINE_STAGE_COLOR_ATTACHMENT_OUTPUT_BIT"),
    (0x800, "VK_PIPELINE_STAGE_COMPUTE_SHADER_BIT"),
    (0x1000, "VK_PIPELINE_STAGE_TRANSFER_BIT"),
    (0x2000, "VK_PIPELINE_STAGE_BOTTOM_OF_PIPE_BIT"),
    (0x4000, "VK_PIPELINE_STAGE_HOST_BIT"),
    (0x8000, "VK_PIPELINE_STAGE_ALL_GRAPHICS_BIT"),
    (0x10000, "VK_PIPELINE_STAGE_ALL_COMMANDS_BIT")]

/-- The scope of a dependency. -/
def dependency : FlagTable where
  name := "VkDependencyFlagBits"
  entries := [(0x1, "VK_DEPENDENCY_BY_REGION_BIT")]

/-- How a command buffer will be used once it is recorded. -/
def commandBufferUsage : FlagTable where
  name := "VkCommandBufferUsageFlagBits"
  entries := [
    (0x1, "VK_COMMAND_BUFFER_USAGE_ONE_TIME_SUBMIT_BIT"),
    (0x2, "VK_COMMAND_BUFFER_USAGE_RENDER_PASS_CONTINUE_BIT"),
    (0x4, "VK_COMMAND_BUFFER_USAGE_SIMULTANEOUS_USE_BIT")]

/-- How the command buffers of a pool will be used. -/
def commandPoolCreate : FlagTable where
  name := "VkCommandPoolCreateFlagBits"
  entries := [
    (0x1, "VK_COMMAND_POOL_CREATE_TRANSIENT_BIT"),
    (0x2, "VK_COMMAND_POOL_CREATE_RESET_COMMAND_BUFFER_BIT")]

/-- The state that a fence starts in. -/
def fenceCreate : FlagTable where
  name := "VkFenceCreateFlagBits"
  entries := [(0x1, "VK_FENCE_CREATE_SIGNALED_BIT")]

/-- The sides of polygons that are left out. -/
def cullMode : FlagTable where
  name := "VkCullModeFlagBits"
  entries := [
    (0x1, "VK_CULL_MODE_FRONT_BIT"),
    (0x2, "VK_CULL_MODE_BACK_BIT")]

/-- The components of a color that are written. -/
def colorComponent : FlagTable where
  name := "VkColorComponentFlagBits"
  entries := [
    (0x1, "VK_COLOR_COMPONENT_R_BIT"),
    (0x2, "VK_COLOR_COMPONENT_G_BIT"),
    (0x4, "VK_COLOR_COMPONENT_B_BIT"),
    (0x8, "VK_COLOR_COMPONENT_A_BIT")]

/-- What texels of a format can be used for. -/
def formatFeature : FlagTable where
  name := "VkFormatFeatureFlagBits"
  entries := [
    (0x1, "VK_FORMAT_FEATURE_SAMPLED_IMAGE_BIT"),
    (0x2, "VK_FORMAT_FEATURE_STORAGE_IMAGE_BIT"),
    (0x4, "VK_FORMAT_FEATURE_STORAGE_IMAGE_ATOMIC_BIT"),
    (0x8, "VK_FORMAT_FEATURE_UNIFORM_TEXEL_BUFFER_BIT"),
    (0x10, "VK_FORMAT_FEATURE_STORAGE_TEXEL_BUFFER_BIT"),
    (0x20, "VK_FORMAT_FEATURE_STORAGE_TEXEL_BUFFER_ATOMIC_BIT"),
    (0x40, "VK_FORMAT_FEATURE_VERTEX_BUFFER_BIT"),
    (0x80, "VK_FORMAT_FEATURE_COLOR_ATTACHMENT_BIT"),
    (0x100, "VK_FORMAT_FEATURE_COLOR_ATTACHMENT_BLEND_BIT"),
    (0x200, "VK_FORMAT_FEATURE_DEPTH_STENCIL_ATTACHMENT_BIT"),
    (0x400, "VK_FORMAT_FEATURE_BLIT_SRC_BIT"),
    (0x800, "VK_FORMAT_FEATURE_BLIT_DST_BIT"),
    (0x1000, "VK_FORMAT_FEATURE_SAMPLED_IMAGE_FILTER_LINEAR_BIT")]

/-- What the queues of a device are to be able to do. -/
def deviceQueueCreate : FlagTable where
  name := "VkDeviceQueueCreateFlagBits"
  entries := [(0x1, "VK_DEVICE_QUEUE_CREATE_PROTECTED_BIT")]

/-- How the descriptor sets of a pool will be used. -/
def descriptorPoolCreate : FlagTable where
  name := "VkDescriptorPoolCreateFlagBits"
  entries := [(0x1, "VK_DESCRIPTOR_POOL_CREATE_FREE_DESCRIPTOR_SET_BIT")]

/-- The flag types of the graphics API that fields refer to. -/
def builtin : List FlagTable :=
  [sampleCount, shaderStage, bufferUsage, imageUsage, imageAspect, access, pipelineStage,
    dependency, commandBufferUsage, commandPoolCreate, fenceCreate, cullMode, colorComponent,
    formatFeature, deviceQueueCreate, descriptorPoolCreate]

/-- The built-in table with a given name. -/
def ofName? (name : String) : Option FlagTable := builtin.find? (·.name == name)

end CallStream.FlagTable
