import CallStream.Names.Enums
import CallStream.Names.Flags
import CallStream.Schema.Basic

/-!
# Structures of buffers and images

The layouts of the structures that describe buffers, images and views of them, and of the extents
and ranges these are made of.
-/

namespace CallStream.StructSchema

open FieldSpec

/-- How a buffer is created. -/
def bufferCreateInfo : StructSchema where
  name := "VkBufferCreateInfo"
  tag := some 12
  fields := [
    u32 "flags", u64 "size", flags "usage" .bufferUsage, enum "sharingMode" .sharingMode,
    u32 "queueFamilyIndexCount",
    (u32 "pQueueFamilyIndices").optional.countedBy "queueFamilyIndexCount"]

/-- A size in two dimensions. -/
def extent2D : StructSchema where
  name := "VkExtent2D"
  tag := none
  fields := [u32 "width", u32 "height"]

/-- A size in three dimensions. -/
def extent3D : StructSchema where
  name := "VkExtent3D"
  tag := none
  fields := [u32 "width", u32 "height", u32 "depth"]

/-- A place in two dimensions, which may be negative. -/
def offset2D : StructSchema where
  name := "VkOffset2D"
  tag := none
  fields := [i32 "x", i32 "y"]

/-- A place in three dimensions, which may be negative. -/
def offset3D : StructSchema where
  name := "VkOffset3D"
  tag := none
  fields := [i32 "x", i32 "y", i32 "z"]

/-- A rectangle. -/
def rect2D : StructSchema where
  name := "VkRect2D"
  tag := none
  fields := [struct "offset" .offset2D, struct "extent" .extent2D]

/-- How an image is created. -/
def imageCreateInfo : StructSchema where
  name := "VkImageCreateInfo"
  tag := some 14
  fields := [
    u32 "flags", enum "imageType" .imageType, enum "format" .format, struct "extent" .extent3D,
    u32 "mipLevels", u32 "arrayLayers", flags "samples" .sampleCount, enum "tiling" .imageTiling,
    flags "usage" .imageUsage, enum "sharingMode" .sharingMode, u32 "queueFamilyIndexCount",
    (u32 "pQueueFamilyIndices").optional.countedBy "queueFamilyIndexCount",
    enum "initialLayout" .imageLayout]

/-- Where each component of a color is taken from. -/
def componentMapping : StructSchema where
  name := "VkComponentMapping"
  tag := none
  fields := [
    enum "r" .componentSwizzle, enum "g" .componentSwizzle, enum "b" .componentSwizzle,
    enum "a" .componentSwizzle]

/-- The levels and layers of an image that a view or a barrier is about. -/
def imageSubresourceRange : StructSchema where
  name := "VkImageSubresourceRange"
  tag := none
  fields := [
    flags "aspectMask" .imageAspect, u32 "baseMipLevel", u32 "levelCount", u32 "baseArrayLayer",
    u32 "layerCount"]

/-- The layers of one level of an image that are copied. -/
def imageSubresourceLayers : StructSchema where
  name := "VkImageSubresourceLayers"
  tag := none
  fields := [
    flags "aspectMask" .imageAspect, u32 "mipLevel", u32 "baseArrayLayer", u32 "layerCount"]

/-- How a view of an image is created. -/
def imageViewCreateInfo : StructSchema where
  name := "VkImageViewCreateInfo"
  tag := some 15
  fields := [
    u32 "flags", handle "image" .image, enum "viewType" .imageViewType, enum "format" .format,
    struct "components" .componentMapping, struct "subresourceRange" .imageSubresourceRange]

end CallStream.StructSchema
