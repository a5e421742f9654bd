import CallStream.Names.Table

/-!
# Enum values

The names of the graphics API's enum values: the core ones and the extension values that streams
commonly carry.
-/

namespace CallStream.EnumTable

/-- What a render pass does with an attachment when it begins. -/
def attachmentLoadOp : EnumTable where
  name := "VkAttachmentLoadOp"
  entries := [
    (0, "VK_ATTACHMENT_LOAD_OP_LOAD"),
    (1, "VK_ATTACHMENT_LOAD_OP_CLEAR"),
    (2, "VK_ATTACHMENT_LOAD_OP_DONT_CARE"),
    (1000400000, "VK_ATTACHMENT_LOAD_OP_NONE_EXT")]

/-- What a render pass does with an attachment when it is over. -/
def attachmentStoreOp : EnumTable where
  name := "VkAttachmentStoreOp"
  entries := [
    (0, "VK_ATTACHMENT_STORE_OP_STORE"),
    (1, "VK_ATTACHMENT_STORE_OP_DONT_CARE"),
    (1000301000, "VK_ATTACHMENT_STORE_OP_NONE_KHR")]

/-- The factors by which colors are weighed when they are blended. -/
def blendFactor : EnumTable where
  name := "VkBlendFactor"
  entries := [
    (0, "VK_BLEND_FACTOR_ZERO"),
    (1, "VK_BLEND_FACTOR_ONE"),
    (2, "VK_BLEND_FACTOR_SRC_COLOR"),
    (3, "VK_BLEND_FACTOR_ONE_MINUS_SRC_COLOR"),
    (4, "VK_BLEND_FACTOR_DST_COLOR"),
    (5, "VK_BLEND_FACTOR_ONE_MINUS_DST_COLOR"),
    (6, "VK_BLEND_FACTOR_SRC_ALPHA"),
    (7, "VK_BLEND_FACTOR_ONE_MINUS_SRC_ALPHA"),
    (8, "VK_BLEND_FACTOR_DST_ALPHA"),
    (9, "VK_BLEND_FACTOR_ONE_MINUS_DST_ALPHA"),
    (10, "VK_BLEND_FACTOR_CONSTANT_COLOR"),
    (11, "VK_BLEND_FACTOR_ONE_MINUS_CONSTANT_COLOR"),
    (12, "VK_BLEND_FACTOR_CONSTANT_ALPHA"),
    (13, "VK_BLEND_FACTOR_ONE_MINUS_CONSTANT_ALPHA"),
    (14, "VK_BLEND_FACTOR_SRC_ALPHA_SATURATE"),
    (15, "VK_BLEND_FACTOR_SRC1_COLOR"),
    (16, "VK_BLEND_FACTOR_ONE_MINUS_SRC1_COLOR"),
    (17, "VK_BLEND_FACTOR_SRC1_ALPHA"),
    (18, "VK_BLEND_FACTOR_ONE_MINUS_SRC1_ALPHA")]

/-- The ways of putting weighed colors together, with those of extensions. -/
def blendOp : EnumTable where
  name := "VkBlendOp"
  entries := [
    (0, "VK_BLEND_OP_ADD"),
    (1, "VK_BLEND_OP_SUBTRACT"),
    (2, "VK_BLEND_OP_REVERSE_SUBTRACT"),
    (3, "VK_BLEND_OP_MIN"),
    (4, "VK_BLEND_OP_MAX"),
    (1000148000, "VK_BLEND_OP_ZERO_EXT"),
    (1000148001, "VK_BLEND_OP_SRC_EXT"),
    (1000148002, "VK_BLEND_OP_DST_EXT"),
    (1000148003, "VK_BLEND_OP_SRC_OVER_EXT"),
    (1000148004, "VK_BLEND_OP_DST_OVER_EXT"),
    (1000148005, "VK_BLEND_OP_SRC_IN_EXT"),
    (1000148006, "VK_BLEND_OP_DST_IN_EXT"),
    (1000148007, "VK_BLEND_OP_SRC_OUT_EXT"),
    (1000148008, "VK_BLEND_OP_DST_OUT_EXT"),
    (1000148009, "VK_BLEND_OP_SRC_ATOP_EXT"),
    (1000148010, "VK_BLEND_OP_DST_ATOP_EXT"),
    (1000148011, "VK_BLEND_OP_XOR_EXT"),
    (1000148012, "VK_BLEND_OP_MULTIPLY_EXT"),
    (1000148013, "VK_BLEND_OP_SCREEN_EXT"),
    (1000148014, "VK_BLEND_OP_OVERLAY_EXT"),
    (1000148015, "VK_BLEND_OP_DARKEN_EXT"),
    (1000148016, "VK_BLEND_OP_LIGHTEN_EXT"),
    (1000148017, "VK_BLEND_OP_COLORDODGE_EXT"),
    (1000148018, "VK_BLEND_OP_COLORBURN_EXT"),
    (1000148019, "VK_BLEND_OP_HARDLIGHT_EXT"),
    (1000148020, "VK_BLEND_OP_SOFTLIGHT_EXT"),
    (1000148021, "VK_BLEND_OP_DIFFERENCE_EXT"),
    (1000148022, "VK_BLEND_OP_EXCLUSION_EXT"),
    (1000148023, "VK_BLEND_OP_INVERT_EXT"),
    (1000148024, "VK_BLEND_OP_INVERT_RGB_EXT"),
    (1000148025, "VK_BLEND_OP_LINEARDODGE_EXT"),
    (1000148026, "VK_BLEND_OP_LINEARBURN_EXT"),
    (1000148027, "VK_BLEND_OP_VIVIDLIGHT_EXT"),
    (1000148028, "VK_BLEND_OP_LINEARLIGHT_EXT"),
    (1000148029, "VK_BLEND_OP_PINLIGHT_EXT"),
    (1000148030, "VK_BLEND_OP_HARDMIX_EXT"),
    (1000148031, "VK_BLEND_OP_HSL_HUE_EXT"),
    (1000148032, "VK_BLEND_OP_HSL_SATURATION_EXT"),
    (1000148033, "VK_BLEND_OP_HSL_COLOR_EXT"),
    (1000148034, "VK_BLEND_OP_HSL_LUMINOSITY_EXT"),
    (1000148035, "VK_BLEND_OP_PLUS_EXT"),
    (1000148036, "VK_BLEND_OP_PLUS_CLAMPED_EXT"),
    (1000148037, "VK_BLEND_OP_PLUS_CLAMPED_ALPHA_EXT"),
    (1000148038, "VK_BLEND_OP_PLUS_DARKER_EXT"),
    (1000148039, "VK_BLEND_OP_MINUS_EXT"),
    (1000148040, "VK_BLEND_OP_MINUS_CLAMPED_EXT"),
    (1000148041, "VK_BLEND_OP_CONTRAST_EXT"),
    (1000148042, "VK_BLEND_OP_INVERT_OVG_EXT"),
    (1000148043, "VK_BLEND_OP_RED_EXT"),
    (1000148044, "VK_BLEND_OP_GREEN_EXT"),
    (1000148045, "VK_BLEND_OP_BLUE_EXT")]

/-- The colors that a sampler gives beyond the border of an image. -/
def borderColor : EnumTable where
  name := "VkBorderColor"
  entries := [
    (0, "VK_BORDER_COLOR_FLOAT_TRANSPARENT_BLACK"),
    (1, "VK_BORDER_COLOR_INT_TRANSPARENT_BLACK"),
    (2, "VK_BORDER_COLOR_FLOAT_OPAQUE_BLACK"),
    (3, "VK_BORDER_COLOR_INT_OPAQUE_BLACK"),
    (4, "VK_BORDER_COLOR_FLOAT_OPAQUE_WHITE"),
    (5, "VK_BORDER_COLOR_INT_OPAQUE_WHITE"),
    (1000287003, "VK_BORDER_COLOR_FLOAT_CUSTOM_EXT"),
    (1000287004, "VK_BORDER_COLOR_INT_CUSTOM_EXT")]

/-- The comparisons of depth, stencil and sampler tests. -/
def compareOp : EnumTable where
  name := "VkCompareOp"
  entries := [
    (0, "VK_COMPARE_OP_NEVER"),
    (1, "VK_COMPARE_OP_LESS"),
    (2, "VK_COMPARE_OP_EQUAL"),
    (3, "VK_COMPARE_OP_LESS_OR_EQUAL"),
    (4, "VK_COMPARE_OP_GREATER"),
    (5, "VK_COMPARE_OP_NOT_EQUAL"),
    (6, "VK_COMPARE_OP_GREATER_OR_EQUAL"),
    (7, "VK_COMPARE_OP_ALWAYS")]

/-- Where a view takes the components of a color from. -/
def componentSwizzle : EnumTable where
  name := "VkComponentSwizzle"
  entries := [
    (0, "VK_COMPONENT_SWIZZLE_IDENTITY"),
    (1, "VK_COMPONENT_SWIZZLE_ZERO"),
    (2, "VK_COMPONENT_SWIZZLE_ONE"),
    (3, "VK_COMPONENT_SWIZZLE_R"),
    (4, "VK_COMPONENT_SWIZZLE_G"),
    (5, "VK_COMPONENT_SWIZZLE_B"),
    (6, "VK_COMPONENT_SWIZZLE_A")]

/-- What a descriptor can stand for. -/
def descriptorType : EnumTable where
  name := "VkDescriptorType"
  entries := [
    (0, "VK_DESCRIPTOR_TYPE_SAMPLER"),
    (1, "VK_DESCRIPTOR_TYPE_COMBINED_IMAGE_SAMPLER"),
    (2, "VK_DESCRIPTOR_TYPE_SAMPLED_IMAGE"),
    (3, "VK_DESCRIPTOR_TYPE_STORAGE_IMAGE"),
    (4, "VK_DESCRIPTOR_TYPE_UNIFORM_TEXEL_BUFFER"),
    (5, "VK_DESCRIPTOR_TYPE_STORAGE_TEXEL_BUFFER"),
    (6, "VK_DESCRIPTOR_TYPE_UNIFORM_BUFFER"),
    (7, "VK_DESCRIPTOR_TYPE_STORAGE_BUFFER"),
    (8, "VK_DESCRIPTOR_TYPE_UNIFORM_BUFFER_DYNAMIC"),
    (9, "VK_DESCRIPTOR_TYPE_STORAGE_BUFFER_DYNAMIC"),
    (10, "VK_DESCRIPTOR_TYPE_INPUT_ATTACHMENT"),
    (1000138000, "VK_DESCRIPTOR_TYPE_INLINE_UNIFORM_BLOCK_EXT"),
    (1000150000, "VK_DESCRIPTOR_TYPE_ACCELERATION_STRUCTURE_KHR"),
    (1000165000, "VK_DESCRIPTOR_TYPE_ACCELERATION_STRUCTURE_NV"),
    (1000351000, "VK_DESCRIPTOR_TYPE_MUTABLE_VALVE")]

/-- The parts of a pipeline's state that commands may set. -/
def dynamicState : EnumTable where
  name := "VkDynamicState"
  entries := [
    (0, "VK_DYNAMIC_STATE_VIEWPORT"),
    (1, "VK_DYNAMIC_STATE_SCISSOR"),
    (2, "VK_DYNAMIC_STATE_LINE_WIDTH"),
    (3, "VK_DYNAMIC_STATE_DEPTH_BIAS"),
    (4, "VK_DYNAMIC_STATE_BLEND_CONSTANTS"),
    (5, "VK_DYNAMIC_STATE_DEPTH_BOUNDS"),
    (6, "VK_DYNAMIC_STATE_STENCIL_COMPARE_MASK"),
    (7, "VK_DYNAMIC_STATE_STENCIL_WRITE_MASK"),
    (8, "VK_DYNAMIC_STATE_STENCIL_REFERENCE"),
    (1000087000, "VK_DYNAMIC_STATE_VIEWPORT_W_SCALING_NV"),
    (1000099000, "VK_DYNAMIC_STATE_DISCARD_RECTANGLE_EXT"),
    (1000143000, "VK_DYNAMIC_STATE_SAMPLE_LOCATIONS_EXT"),
    (1000347000, "VK_DYNAMIC_STATE_RAY_TRACING_PIPELINE_STACK_SIZE_KHR"),
    (1000164004, "VK_DYNAMIC_STATE_VIEWPORT_SHADING_RATE_PALETTE_NV"),
    (1000164006, "VK_DYNAMIC_STATE_VIEWPORT_COARSE_SAMPLE_ORDER_NV"),
    (1000205001, "VK_DYNAMIC_STATE_EXCLUSIVE_SCISSOR_NV"),
    (1000226000, "VK_DYNAMIC_STATE_FRAGMENT_SHADING_RATE_KHR"),
    (1000259000, "VK_DYNAMIC_STATE_LINE_STIPPLE_EXT"),
    (1000267000, "VK_DYNAMIC_STATE_CULL_MODE_EXT"),
    (1000267001, "VK_DYNAMIC_STATE_FRONT_FACE_EXT"),
    (1000267002, "VK_DYNAMIC_STATE_PRIMITIVE_TOPOLOGY_EXT"),
    (1000267003, "VK_DYNAMIC_STATE_VIEWPORT_WITH_COUNT_EXT"),
    (1000267004, "VK_DYNAMIC_STATE_SCISSOR_WITH_COUNT_EXT"),
    (1000267005, "VK_DYNAMIC_STATE_VERTEX_INPUT_BINDING_STRIDE_EXT"),
    (1000267006, "VK_DYNAMIC_STATE_DEPTH_TEST_ENABLE_EXT"),
    (1000267007, "VK_DYNAMIC_STATE_DEPTH_WRITE_ENABLE_EXT"),
    (1000267008, "VK_DYNAMIC_STATE_DEPTH_COMPARE_OP_EXT"),
    (1000267009, "VK_DYNAMIC_STATE_DEPTH_BOUNDS_TEST_ENABLE_EXT"),
    (1000267010, "VK_DYNAMIC_STATE_STENCIL_TEST_ENABLE_EXT"),
    (1000267011, "VK_DYNAMIC_STATE_STENCIL_OP_EXT"),
    (1000352000, "VK_DYNAMIC_STATE_VERTEX_INPUT_EXT"),
    (1000377000, "VK_DYNAMIC_STATE_PATCH_CONTROL_POINTS_EXT"),
    (1000377001, "VK_DYNAMIC_STATE_RASTERIZER_DISCARD_ENABLE_EXT"),
    (1000377002, "VK_DYNAMIC_STATE_DEPTH_BIAS_ENABLE_EXT"),
    (1000377003, "VK_DYNAMIC_STATE_LOGIC_OP_EXT"),
    (1000377004, "VK_DYNAMIC_STATE_PRIMITIVE_RESTART_ENABLE_EXT"),
    (1000381000, "VK_DYNAMIC_STATE_COLOR_WRITE_ENABLE_EXT")]

/-- How texels are filtered. -/
def filter : EnumTable where
  name := "VkFilter"
  entries := [
    (0, "VK_FILTER_NEAREST"),
    (1, "VK_FILTER_LINEAR"),
    (1000015000, "VK_FILTER_CUBIC_IMG")]

/-- The formats of texels and vertex attributes. -/
def format : EnumTable where
  name := "VkFormat"
  entries := [
    (0, "VK_FORMAT_UNDEFINED"),
    (1, "VK_FORMAT_R4G4_UNORM_PACK8"),
    (2, "VK_FORMAT_R4G4B4A4_UNORM_PACK16"),
    (3, "VK_FORMAT_B4G4R4A4_UNORM_PACK16"),
    (4, "VK_FORMAT_R5G6B5_UNORM_PACK16"),
    (5, "VK_FORMAT_B5G6R5_UNORM_PACK16"),
    (6, "VK_FORMAT_R5G5B5A1_UNORM_PACK16"),
    (7, "VK_FORMAT_B5G5R5A1_UNORM_PACK16"),
    (8, "VK_FORMAT_A1R5G5B5_UNORM_PACK16"),
    (9, "VK_FORMAT_R8_UNORM"),
    (10, "VK_FORMAT_R8_SNORM"),
    (11, "VK_FORMAT_R8_USCALED"),
    (12, "VK_FORMAT_R8_SSCALED"),
    (13, "VK_FORMAT_R8_UINT"),
    (14, "VK_FORMAT_R8_SINT"),
    (15, "VK_FORMAT_R8_SRGB"),
    (16, "VK_FORMAT_R8G8_UNORM"),
    (17, "VK_FORMAT_R8G8_SNORM"),
    (18, "VK_FORMAT_R8G8_USCALED"),
    (19, "VK_FORMAT_R8G8_SSCALED"),
    (20, "VK_FORMAT_R8G8_UINT"),
    (21, "VK_FORMAT_R8G8_SINT"),
    (22, "VK_FORMAT_R8G8_SRGB"),
    (23, "VK_FORMAT_R8G8B8_UNORM"),
    (24, "VK_FORMAT_R8G8B8_SNORM"),
    (25, "VK_FORMAT_R8G8B8_USCALED"),
    (26, "VK_FORMAT_R8G8B8_SSCALED"),
    (27, "VK_FORMAT_R8G8B8_UINT"),
    (28, "VK_FORMAT_R8G8B8_SINT"),
    (29, "VK_FORMAT_R8G8B8_SRGB"),
    (30, "VK_FORMAT_B8G8R8_UNORM"),
    (31, "VK_FORMAT_B8G8R8_SNORM"),
    (32, "VK_FORMAT_B8G8R8_USCALED"),
    (33, "VK_FORMAT_B8G8R8_SSCALED"),
    (34, "VK_FORMAT_B8G8R8_UINT"),
    (35, "VK_FORMAT_B8G8R8_SINT"),
    (36, "VK_FORMAT_B8G8R8_SRGB"),
    (37, "VK_FORMAT_R8G8B8A8_UNORM"),
    (38, "VK_FORMAT_R8G8B8A8_SNORM"),
    (39, "VK_FORMAT_R8G8B8A8_USCALED"),
    (40, "VK_FORMAT_R8G8B8A8_SSCALED"),
    (41, "VK_FORMAT_R8G8B8A8_UINT"),
    (42, "VK_FORMAT_R8G8B8A8_SINT"),
    (43, "VK_FORMAT_R8G8B8A8_SRGB"),
    (44, "VK_FORMAT_B8G8R8A8_UNORM"),
    (45, "VK_FORMAT_B8G8R8A8_SNORM"),
    (46, "VK_FORMAT_B8G8R8A8_USCALED"),
    (47, "VK_FORMAT_B8G8R8A8_SSCALED"),
    (48, "VK_FORMAT_B8G8R8A8_UINT"),
    (49, "VK_FORMAT_B8G8R8A8_SINT"),
    (50, "VK_FORMAT_B8G8R8A8_SRGB"),
    (51, "VK_FORMAT_A8B8G8R8_UNORM_PACK32"),
    (52, "VK_FORMAT_A8B8G8R8_SNORM_PACK32"),
    (53, "VK_FORMAT_A8B8G8R8_USCALED_PACK32"),
    (54, "VK_FORMAT_A8B8G8R8_SSCALED_PACK32"),
    (55, "VK_FORMAT_A8B8G8R8_UINT_PACK32"),
    (56, "VK_FORMAT_A8B8G8R8_SINT_PACK32"),
    (57, "VK_FORMAT_A8B8G8R8_SRGB_PACK32"),
    (58, "VK_FORMAT_A2R10G10B10_UNORM_PACK32"),
    (59, "VK_FORMAT_A2R10G10B10_SNORM_PACK32"),
    (60, "VK_FORMAT_A2R10G10B10_USCALED_PACK32"),
    (61, "VK_FORMAT_A2R10G10B10_SSCALED_PACK32"),
    (62, "VK_FORMAT_A2R10G10B10_UINT_PACK32"),
    (63, "VK_FORMAT_A2R10G10B10_SINT_PACK32"),
    (64, "VK_FORMAT_A2B10G10R10_UNORM_PACK32"),
    (65, "VK_FORMAT_A2B10G10R10_SNORM_PACK32"),
    (66, "VK_FORMAT_A2B10G10R10_USCALED_PACK32"),
    (67, "VK_FORMAT_A2B10G10R10_SSCALED_PACK32"),
    (68, "VK_FORMAT_A2B10G10R10_UINT_PACK32"),
    (69, "VK_FORMAT_A2B10G10R10_SINT_PACK32"),
    (70, "VK_FORMAT_R16_UNORM"),
    (71, "VK_FORMAT_R16_SNORM"),
    (72, "VK_FORMAT_R16_USCALED"),
    (73, "VK_FORMAT_R16_SSCALED"),
    (74, "VK_FORMAT_R16_UINT"),
    (75, "VK_FORMAT_R16_SINT"),
    (76, "VK_FORMAT_R16_SFLOAT"),
    (77, "VK_FORMAT_R16G16_UNORM"),
    (78, "VK_FORMAT_R16G16_SNORM"),
    (79, "VK_FORMAT_R16G16_USCALED"),
    (80, "VK_FORMAT_R16G16_SSCALED"),
    (81, "VK_FORMAT_R16G16_UINT"),
    (82, "VK_FORMAT_R16G16_SINT"),
    (83, "VK_FORMAT_R16G16_SFLOAT"),
    (84, "VK_FORMAT_R16G16B16_UNORM"),
    (85, "VK_FORMAT_R16G16B16_SNORM"),
    (86, "VK_FORMAT_R16G16B16_USCALED"),
    (87, "VK_FORMAT_R16G16B16_SSCALED"),
    (88, "VK_FORMAT_R16G16B16_UINT"),
    (89, "VK_FORMAT_R16G16B16_SINT"),
    (90, "VK_FORMAT_R16G16B16_SFLOAT"),
    (91, "VK_FORMAT_R16G16B16A16_UNORM"),
    (92, "VK_FORMAT_R16G16B16A16_SNORM"),
    (93, "VK_FORMAT_R16G16B16A16_USCALED"),
    (94, "VK_FORMAT_R16G16B16A16_SSCALED"),
    (95, "VK_FORMAT_R16G16B16A16_UINT"),
    (96, "VK_FORMAT_R16G16B16A16_SINT"),
    (97, "VK_FORMAT_R16G16B16A16_SFLOAT"),
    (98, "VK_FORMAT_R32_UINT"),
    (99, "VK_FORMAT_R32_SINT"),
    (100, "VK_FORMAT_R32_SFLOAT"),
    (101, "VK_FORMAT_R32G32_UINT"),
    (102, "VK_FORMAT_R32G32_SINT"),
    (103, "VK_FORMAT_R32G32_SFLOAT"),
    (104, "VK_FORMAT_R32G32B32_UINT"),
    (105, "VK_FORMAT_R32G32B32_SINT"),
    (106, "VK_FORMAT_R32G32B32_SFLOAT"),
    (107, "VK_FORMAT_R32G32B32A32_UINT"),
    (108, "VK_FORMAT_R32G32B32A32_SINT"),
    (109, "VK_FORMAT_R32G32B32A32_SFLOAT"),
    (110, "VK_FORMAT_R64_UINT"),
    (111, "VK_FORMAT_R64_SINT"),
    (112, "VK_FORMAT_R64_SFLOAT"),
    (113, "VK_FORMAT_R64G64_UINT"),
    (114, "VK_FORMAT_R64G64_SINT"),
    (115, "VK_FORMAT_R64G64_SFLOAT"),
    (116, "VK_FORMAT_R64G64B64_UINT"),
    (117, "VK_FORMAT_R64G64B64_SINT"),
    (118, "VK_FORMAT_R64G64B64_SFLOAT"),
    (119, "VK_FORMAT_R64G64B64A64_UINT"),
    (120, "VK_FORMAT_R64G64B64A64_SINT"),
    (121, "VK_FORMAT_R64G64B64A64_SFLOAT"),
    (122, "VK_FORMAT_B10G11R11_UFLOAT_PACK32"),
    (123, "VK_FORMAT_E5B9G9R9_UFLOAT_PACK32"),
    (124, "VK_FORMAT_D16_UNORM"),
    (125, "VK_FORMAT_X8_D24_UNORM_PACK32"),
    (126, "VK_FORMAT_D32_SFLOAT"),
    (127, "VK_FORMAT_S8_UINT"),
    (128, "VK_FORMAT_D16_UNORM_S8_UINT"),
    (129, "VK_FORMAT_D24_UNORM_S8_UINT"),
    (130, "VK_FORMAT_D32_SFLOAT_S8_UINT"),
    (131, "VK_FORMAT_BC1_RGB_UNORM_BLOCK"),
    (132, "VK_FORMAT_BC1_RGB_SRGB_BLOCK"),
    (133, "VK_FORMAT_BC1_RGBA_UNORM_BLOCK"),
    (134, "VK_FORMAT_BC1_RGBA_SRGB_BLOCK"),
    (135, "VK_FORMAT_BC2_UNORM_BLOCK"),
    (136, "VK_FORMAT_BC2_SRGB_BLOCK"),
    (137, "VK_FORMAT_BC3_UNORM_BLOCK"),
    (138, "VK_FORMAT_BC3_SRGB_BLOCK"),
    (139, "VK_FORMAT_BC4_UNORM_BLOCK"),
    (140, "VK_FORMAT_BC4_SNORM_BLOCK"),
    (141, "VK_FORMAT_BC5_UNORM_BLOCK"),
    (142, "VK_FORMAT_BC5_SNORM_BLOCK"),
    (143, "VK_FORMAT_BC6H_UFLOAT_BLOCK"),
    (144, "VK_FORMAT_BC6H_SFLOAT_BLOCK"),
    (145, "VK_FORMAT_BC7_UNORM_BLOCK"),
    (146, "VK_FORMAT_BC7_SRGB_BLOCK"),
    (147, "VK_FORMAT_ETC2_R8G8B8_UNORM_BLOCK"),
    (148, "VK_FORMAT_ETC2_R8G8B8_SRGB_BLOCK"),
    (149, "VK_FORMAT_ETC2_R8G8B8A1_UNORM_BLOCK"),
    (150, "VK_FORMAT_ETC2_R8G8B8A1_SRGB_BLOCK"),
    (151, "VK_FORMAT_ETC2_R8G8B8A8_UNORM_BLOCK"),
    (152, "VK_FORMAT_ETC2_R8G8B8A8_SRGB_BLOCK"),
    (153, "VK_FORMAT_EAC_R11_UNORM_BLOCK"),
    (154, "VK_FORMAT_EAC_R11_SNORM_BLOCK"),
    (155, "VK_FORMAT_EAC_R11G11_UNORM_BLOCK"),
    (156, "VK_FORMAT_EAC_R11G11_SNORM_BLOCK"),
    (157, "VK_FORMAT_ASTC_4x4_UNORM_BLOCK"),
    (158, "VK_FORMAT_ASTC_4x4_SRGB_BLOCK"),
    (159, "VK_FORMAT_ASTC_5x4_UNORM_BLOCK"),
    (160, "VK_FORMAT_ASTC_5x4_SRGB_BLOCK"),
    (161, "VK_FORMAT_ASTC_5x5_UNORM_BLOCK"),
    (162, "VK_FORMAT_ASTC_5x5_SRGB_BLOCK"),
    (163, "VK_FORMAT_ASTC_6x5_UNORM_BLOCK"),
    (164, "VK_FORMAT_ASTC_6x5_SRGB_BLOCK"),
    (165, "VK_FORMAT_ASTC_6x6_UNORM_BLOCK"),
    (166, "VK_FORMAT_ASTC_6x6_SRGB_BLOCK"),
    (167, "VK_FORMAT_ASTC_8x5_UNORM_BLOCK"),
    (168, "VK_FORMAT_ASTC_8x5_SRGB_BLOCK"),
    (169, "VK_FORMAT_ASTC_8x6_UNORM_BLOCK"),
    (170, "VK_FORMAT_ASTC_8x6_SRGB_BLOCK"),
    (171, "VK_FORMAT_ASTC_8x8_UNORM_BLOCK"),
    (172, "VK_FORMAT_ASTC_8x8_SRGB_BLOCK"),
    (173, "VK_FORMAT_ASTC_10x5_UNORM_BLOCK"),
    (174, "VK_FORMAT_ASTC_10x5_SRGB_BLOCK"),
    (175, "VK_FORMAT_ASTC_10x6_UNORM_BLOCK"),
    (176, "VK_FORMAT_ASTC_10x6_SRGB_BLOCK"),
    (177, "VK_FORMAT_ASTC_10x8_UNORM_BLOCK"),
    (178, "VK_FORMAT_ASTC_10x8_SRGB_BLOCK"),
    (179, "VK_FORMAT_ASTC_10x10_UNORM_BLOCK"),
    (180, "VK_FORMAT_ASTC_10x10_SRGB_BLOCK"),
    (181, "VK_FORMAT_ASTC_12x10_UNORM_BLOCK"),
    (182, "VK_FORMAT_ASTC_12x10_SRGB_BLOCK"),
    (183, "VK_FORMAT_ASTC_12x12_UNORM_BLOCK"),
    (184, "VK_FORMAT_ASTC_12x12_SRGB_BLOCK")]

/-- Which way around the front of a polygon is drawn. -/
def frontFace : EnumTable where
  name := "VkFrontFace"
  entries := [
    (0, "VK_FRONT_FACE_COUNTER_CLOCKWISE"),
    (1, "VK_FRONT_FACE_CLOCKWISE")]

/-- The layouts that an image can be in. -/
def imageLayout : EnumTable where
  name := "VkImageLayout"
  entries := [
    (0, "VK_IMAGE_LAYOUT_UNDEFINED"),
    (1, "VK_IMAGE_LAYOUT_GENERAL"),
    (2, "VK_IMAGE_LAYOUT_COLOR_ATTACHMENT_OPTIMAL"),
    (3, "VK_IMAGE_LAYOUT_DEPTH_STENCIL_ATTACHMENT_OPTIMAL"),
    (4, "VK_IMAGE_LAYOUT_DEPTH_STENCIL_READ_ONLY_OPTIMAL"),
    (5, "VK_IMAGE_LAYOUT_SHADER_READ_ONLY_OPTIMAL"),
    (6, "VK_IMAGE_LAYOUT_TRANSFER_SRC_OPTIMAL"),
    (7, "VK_IMAGE_LAYOUT_TRANSFER_DST_OPTIMAL"),
    (8, "VK_IMAGE_LAYOUT_PREINITIALIZED"),
    (1000117000, "VK_IMAGE_LAYOUT_DEPTH_READ_ONLY_STENCIL_ATTACHMENT_OPTIMAL"),
    (1000117001, "VK_IMAGE_LAYOUT_DEPTH_ATTACHMENT_STENCIL_READ_ONLY_OPTIMAL"),
    (1000241000, "VK_IMAGE_LAYOUT_DEPTH_ATTACHMENT_OPTIMAL"),
    (1000241001, "VK_IMAGE_LAYOUT_DEPTH_READ_ONLY_OPTIMAL"),
    (1000241002, "VK_IMAGE_LAYOUT_STENCIL_ATTACHMENT_OPTIMAL"),
    (1000241003, "VK_IMAGE_LAYOUT_STENCIL_READ_ONLY_OPTIMAL"),
    (1000001002, "VK_IMAGE_LAYOUT_PRESENT_SRC_KHR"),
    (1000024000, "VK_IMAGE_LAYOUT_VIDEO_DECODE_DST_KHR"),
    (1000024001, "VK_IMAGE_LAYOUT_VIDEO_DECODE_SRC_KHR"),
    (1000024002, "VK_IMAGE_LAYOUT_VIDEO_DECODE_DPB_KHR"),
    (1000111000, "VK_IMAGE_LAYOUT_SHARED_PRESENT_KHR"),
    (1000218000, "VK_IMAGE_LAYOUT_FRAGMENT_DENSITY_MAP_OPTIMAL_EXT"),
    (1000164003, "VK_IMAGE_LAYOUT_FRAGMENT_SHADING_RATE_ATTACHMENT_OPTIMAL_KHR"),
    (1000299000, "VK_IMAGE_LAYOUT_VIDEO_ENCODE_DST_KHR"),
    (1000299001, "VK_IMAGE_LAYOUT_VIDEO_ENCODE_SRC_KHR"),
    (1000299002, "VK_IMAGE_LAYOUT_VIDEO_ENCODE_DPB_KHR"),
    (1000314000, "VK_IMAGE_LAYOUT_READ_ONLY_OPTIMAL_KHR"),
    (1000314001, "VK_IMAGE_LAYOUT_ATTACHMENT_OPTIMAL_KHR")]

/-- How the texels of an image lie in memory. -/
def imageTiling : EnumTable where
  name := "VkImageTiling"
  entries := [
    (0, "VK_IMAGE_TILING_OPTIMAL"),
    (1, "VK_IMAGE_TILING_LINEAR"),
    (1000158000, "VK_IMAGE_TILING_DRM_FORMAT_MODIFIER_EXT")]

/-- How many dimensions an image has. -/
def imageType : EnumTable where
  name := "VkImageType"
  entries := [
    (0, "VK_IMAGE_TYPE_1D"),
    (1, "VK_IMAGE_TYPE_2D"),
    (2, "VK_IMAGE_TYPE_3D")]

/-- What a view makes of an image. -/
def imageViewType : EnumTable where
  name := "VkImageViewType"
  entries := [
    (0, "VK_IMAGE_VIEW_TYPE_1D"),
    (1, "VK_IMAGE_VIEW_TYPE_2D"),
    (2, "VK_IMAGE_VIEW_TYPE_3D"),
    (3, "VK_IMAGE_VIEW_TYPE_CUBE"),
    (4, "VK_IMAGE_VIEW_TYPE_1D_ARRAY"),
    (5, "VK_IMAGE_VIEW_TYPE_2D_ARRAY"),
    (6, "VK_IMAGE_VIEW_TYPE_CUBE_ARRAY")]

/-- The types of indices of vertices. -/
def indexType : EnumTable where
  name := "VkIndexType"
  entries := [
    (0, "VK_INDEX_TYPE_UINT16"),
    (1, "VK_INDEX_TYPE_UINT32"),
    (1000165000, "VK_INDEX_TYPE_NONE_KHR"),
    (1000265000, "VK_INDEX_TYPE_UINT8_EXT")]

/-- The logical operations on colors. -/
def logicOp : EnumTable where
  name := "VkLogicOp"
  entries := [
    (0, "VK_LOGIC_OP_CLEAR"),
    (1, "VK_LOGIC_OP_AND"),
    (2, "VK_LOGIC_OP_AND_REVERSE"),
    (3, "VK_LOGIC_OP_COPY"),
    (4, "VK_LOGIC_OP_AND_INVERTED"),
    (5, "VK_LOGIC_OP_NO_OP"),
    (6, "VK_LOGIC_OP_XOR"),
    (7, "VK_LOGIC_OP_OR"),
    (8, "VK_LOGIC_OP_NOR"),
    (9, "VK_LOGIC_OP_EQUIVALENT"),
    (10, "VK_LOGIC_OP_INVERT"),
    (11, "VK_LOGIC_OP_OR_REVERSE"),
    (12, "VK_LOGIC_OP_COPY_INVERTED"),
    (13, "VK_LOGIC_OP_OR_INVERTED"),
    (14, "VK_LOGIC_OP_NAND"),
    (15, "VK_LOGIC_OP_SET")]

/-- The kinds of work that a pipeline can be bound for. -/
def pipelineBindPoint : EnumTable where
  name := "VkPipelineBindPoint"
  entries := [
    (0, "VK_PIPELINE_BIND_POINT_GRAPHICS"),
    (1, "VK_PIPELINE_BIND_POINT_COMPUTE"),
    (1000165000, "VK_PIPELINE_BIND_POINT_RAY_TRACING_KHR"),
    (1000369003, "VK_PIPELINE_BIND_POINT_SUBPASS_SHADING_HUAWEI")]

/-- How polygons are drawn. -/
def polygonMode : EnumTable where
  name := "VkPolygonMode"
  entries := [
    (0, "VK_POLYGON_MODE_FILL"),
    (1, "VK_POLYGON_MODE_LINE"),
    (2, "VK_POLYGON_MODE_POINT"),
    (1000153000, "VK_POLYGON_MODE_FILL_RECTANGLE_NV")]

/-- How vertices make up primitives. -/
def primitiveTopology : EnumTable where
  name := "VkPrimitiveTopology"
  entries := [
    (0, "VK_PRIMITIVE_TOPOLOGY_POINT_LIST"),
    (1, "VK_PRIMITIVE_TOPOLOGY_LINE_LIST"),
    (2, "VK_PRIMITIVE_TOPOLOGY_LINE_STRIP"),
    (3, "VK_PRIMITIVE_TOPOLOGY_TRIANGLE_LIST"),
    (4, "VK_PRIMITIVE_TOPOLOGY_TRIANGLE_STRIP"),
    (5, "VK_PRIMITIVE_TOPOLOGY_TRIANGLE_FAN"),
    (6, "VK_PRIMITIVE_TOPOLOGY_LINE_LIST_WITH_ADJACENCY"),
    (7, "VK_PRIMITIVE_TOPOLOGY_LINE_STRIP_WITH_ADJACENCY"),
    (8, "VK_PRIMITIVE_TOPOLOGY_TRIANGLE_LIST_WITH_ADJACENCY"),
    (9, "VK_PRIMITIVE_TOPOLOGY_TRIANGLE_STRIP_WITH_ADJACENCY"),
    (10, "VK_PRIMITIVE_TOPOLOGY_PATCH_LIST")]

/-- How a sampler goes on beyond the border of an image. -/
def samplerAddressMode : EnumTable where
  name := "VkSamplerAddressMode"
  entries := [
    (0, "VK_SAMPLER_ADDRESS_MODE_REPEAT"),
    (1, "VK_SAMPLER_ADDRESS_MODE_MIRRORED_REPEAT"),
    (2, "VK_SAMPLER_ADDRESS_MODE_CLAMP_TO_EDGE"),
    (3, "VK_SAMPLER_ADDRESS_MODE_CLAMP_TO_BORDER"),
    (4, "VK_SAMPLER_ADDRESS_MODE_MIRROR_CLAMP_TO_EDGE")]

/-- How a sampler goes from one level of an image to the next. -/
def samplerMipmapMode : EnumTable where
  name := "VkSamplerMipmapMode"
  entries := [
    (0, "VK_SAMPLER_MIPMAP_MODE_NEAREST"),
    (1, "VK_SAMPLER_MIPMAP_MODE_LINEAR")]

/-- Whether queue families share a resource. -/
def sharingMode : EnumTable where
  name := "VkSharingMode"
  entries := [
    (0, "VK_SHARING_MODE_EXCLUSIVE"),
    (1, "VK_SHARING_MODE_CONCURRENT")]

/-- What becomes of a stencil value after its test. -/
def stencilOp : EnumTable where
  name := "VkStencilOp"
  entries := [
    (0, "VK_STENCIL_OP_KEEP"),
    (1, "VK_STENCIL_OP_ZERO"),
    (2, "VK_STENCIL_OP_REPLACE"),
    (3, "VK_STENCIL_OP_INCREMENT_AND_CLAMP"),
    (4, "VK_STENCIL_OP_DECREMENT_AND_CLAMP"),
    (5, "VK_STENCIL_OP_INVERT"),
    (6, "VK_STENCIL_OP_INCREMENT_AND_WRAP"),
    (7, "VK_STENCIL_OP_DECREMENT_AND_WRAP")]

/-- The tags of extensible structures. -/
def structureType : EnumTable where
  name := "VkStructureType"
  entries := [
    (0, "VK_STRUCTURE_TYPE_APPLICATION_INFO"),
    (1, "VK_STRUCTURE_TYPE_INSTANCE_CREATE_INFO"),
    (2, "VK_STRUCTURE_TYPE_DEVICE_QUEUE_CREATE_INFO"),
    (3, "VK_STRUCTURE_TYPE_DEVICE_CREATE_INFO"),
    (4, "VK_STRUCTURE_TYPE_SUBMIT_INFO"),
    (5, "VK_STRUCTURE_TYPE_MEMORY_ALLOCATE_INFO"),
    (6, "VK_STRUCTURE_TYPE_MAPPED_MEMORY_RANGE"),
    (7, "VK_STRUCTURE_TYPE_BIND_SPARSE_INFO"),
    (8, "VK_STRUCTURE_TYPE_FENCE_CREATE_INFO"),
    (9, "VK_STRUCTURE_TYPE_SEMAPHORE_CREATE_INFO"),
    (10, "VK_STRUCTURE_TYPE_EVENT_CREATE_INFO"),
    (11, "VK_STRUCTURE_TYPE_QUERY_POOL_CREATE_INFO"),
    (12, "VK_STRUCTURE_TYPE_BUFFER_CREATE_INFO"),
    (13, "VK_STRUCTURE_TYPE_BUFFER_VIEW_CREATE_INFO"),
    (14, "VK_STRUCTURE_TYPE_IMAGE_CREATE_INFO"),
    (15, "VK_STRUCTURE_TYPE_IMAGE_VIEW_CREATE_INFO"),
    (16, "VK_STRUCTURE_TYPE_SHADER_MODULE_CREATE_INFO"),
    (17, "VK_STRUCTURE_TYPE_PIPELINE_CACHE_CREATE_INFO"),
    (18, "VK_STRUCTURE_TYPE_PIPELINE_SHADER_STAGE_CREATE_INFO"),
    (19, "VK_STRUCTURE_TYPE_PIPELINE_VERTEX_INPUT_STATE_CREATE_INFO"),
    (20, "VK_STRUCTURE_TYPE_PIPELINE_INPUT_ASSEMBLY_STATE_CREATE_INFO"),
    (21, "VK_STRUCTURE_TYPE_PIPELINE_TESSELLATION_STATE_CREATE_INFO"),
    (22, "VK_STRUCTURE_TYPE_PIPELINE_VIEWPORT_STATE_CREATE_INFO"),
    (23, "VK_STRUCTURE_TYPE_PIPELINE_RASTERIZATION_STATE_CREATE_INFO"),
    (24, "VK_STRUCTURE_TYPE_PIPELINE_MULTISAMPLE_STATE_CREATE_INFO"),
    (25, "VK_STRUCTURE_TYPE_PIPELINE_DEPTH_STENCIL_STATE_CREATE_INFO"),
    (26, "VK_STRUCTURE_TYPE_PIPELINE_COLOR_BLEND_STATE_CREATE_INFO"),
    (27, "VK_STRUCTURE_TYPE_PIPELINE_DYNAMIC_STATE_CREATE_INFO"),
    (28, "VK_STRUCTURE_TYPE_GRAPHICS_PIPELINE_CREATE_INFO"),
    (29, "VK_STRUCTURE_TYPE_COMPUTE_PIPELINE_CREATE_INFO"),
    (30, "VK_STRUCTURE_TYPE_PIPELINE_LAYOUT_CREATE_INFO"),
    (31, "VK_STRUCTURE_TYPE_SAMPLER_CREATE_INFO"),
    (32, "VK_STRUCTURE_TYPE_DESCRIPTOR_SET_LAYOUT_CREATE_INFO"),
    (33, "VK_STRUCTURE_TYPE_DESCRIPTOR_POOL_CREATE_INFO"),
    (34, "VK_STRUCTURE_TYPE_DESCRIPTOR_SET_ALLOCATE_INFO"),
    (35, "VK_STRUCTURE_TYPE_WRITE_DESCRIPTOR_SET"),
    (36, "VK_STRUCTURE_TYPE_COPY_DESCRIPTOR_SET"),
    (37, "VK_STRUCTURE_TYPE_FRAMEBUFFER_CREATE_INFO"),
    (38, "VK_STRUCTURE_TYPE_RENDER_PASS_CREATE_INFO"),
    (39, "VK_STRUCTURE_TYPE_COMMAND_POOL_CREATE_INFO"),
    (40, "VK_STRUCTURE_TYPE_COMMAND_BUFFER_ALLOCATE_INFO"),
    (41, "VK_STRUCTURE_TYPE_COMMAND_BUFFER_INHERITANCE_INFO"),
    (42, "VK_STRUCTURE_TYPE_COMMAND_BUFFER_BEGIN_INFO"),
    (43, "VK_STRUCTURE_TYPE_RENDER_PASS_BEGIN_INFO"),
    (44, "VK_STRUCTURE_TYPE_BUFFER_MEMORY_BARRIER"),
    (45, "VK_STRUCTURE_TYPE_IMAGE_MEMORY_BARRIER"),
    (46, "VK_STRUCTURE_TYPE_MEMORY_BARRIER"),
    (47, "VK_STRUCTURE_TYPE_LOADER_INSTANCE_CREATE_INFO"),
    (48, "VK_STRUCTURE_TYPE_LOADER_DEVICE_CREATE_INFO"),
    (1000059001, "VK_STRUCTURE_TYPE_PHYSICAL_DEVICE_PROPERTIES_2"),
    (49, "VK_STRUCTURE_TYPE_PHYSICAL_DEVICE_VULKAN_1_1_FEATURES"),
    (50, "VK_STRUCTURE_TYPE_PHYSICAL_DEVICE_VULKAN_1_1_PROPERTIES"),
    (51, "VK_STRUCTURE_TYPE_PHYSICAL_DEVICE_VULKAN_1_2_FEATURES"),
    (52, "VK_STRUCTURE_TYPE_PHYSICAL_DEVICE_VULKAN_1_2_PROPERTIES")]

/-- Where the commands of a subpass are recorded. -/
def subpassContents : EnumTable where
  name := "VkSubpassContents"
  entries := [
    (0, "VK_SUBPASS_CONTENTS_INLINE"),
    (1, "VK_SUBPASS_CONTENTS_SECONDARY_COMMAND_BUFFERS")]

/-- Whether an attribute advances with the vertex or with the instance. -/
def vertexInputRate : EnumTable where
  name := "VkVertexInputRate"
  entries := [
    (0, "VK_VERTEX_INPUT_RATE_VERTEX"),
    (1, "VK_VERTEX_INPUT_RATE_INSTANCE")]

/-- Whether a command buffer is submitted or called by another one. -/
def commandBufferLevel : EnumTable where
  name := "VkCommandBufferLevel"
  entries := [
    (0, "VK_COMMAND_BUFFER_LEVEL_PRIMARY"),
    (1, "VK_COMMAND_BUFFER_LEVEL_SECONDARY")]

/-- The enums of the graphics API that fields refer to. -/
def builtin : List EnumTable :=
  [attachmentLoadOp, attachmentStoreOp, blendFactor, blendOp, borderColor, compareOp,
    componentSwizzle, descriptorType, dynamicState, filter, format, frontFace, imageLayout,
    imageTiling, imageType, imageViewType, indexType, logicOp, pipelineBindPoint, polygonMode,
    primitiveTopology, samplerAddressMode, samplerMipmapMode, sharingMode, stencilOp,
    structureType, subpassContents, vertexInputRate, commandBufferLevel]

/-- The built-in table with a given name. -/
def ofName? (name : String) : Option EnumTable := builtin.find? (·.name == name)

end CallStream.EnumTable
