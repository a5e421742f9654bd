import CallStream.Names.Enums
import CallStream.Names.Flags
import CallStream.Schema.Basic

/-!
# Structures of descriptors

The layouts of the structures with which a guest lays out, allocates and updates descriptor sets.
-/

namespace CallStream.StructSchema

open FieldSpec

/-- One binding of a layout of descriptor sets. -/
def descriptorSetLayoutBinding : StructSchema where
  name := "VkDescriptorSetLayoutBinding"
  tag := none
  fields := [
    u32 "binding", enum "descriptorType" .descriptorType, u32 "descriptorCount",
    flags "stageFlags" .shaderStage,
    (handle "pImmutableSamplers" .sampler).optional.countedBy "descriptorCount"]

/-- How a layout of descriptor sets is created. -/
def descriptorSetLayoutCreateInfo : StructSchema where
  name := "VkDescriptorSetLayoutCreateInfo"
  tag := some 32
  fields := [
    u32 "flags", u32 "bindingCount",
    (struct "pBindings" .descriptorSetLayoutBinding).countedBy "bindingCount"]

/-- How many descriptors of one type a pool has. -/
def descriptorPoolSize : StructSchema where
  name := "VkDescriptorPoolSize"
  tag := none
  fields := [enum "type" .descriptorType, u32 "descriptorCount"]

/-- How a pool of descriptor sets is created. -/
def descriptorPoolCreateInfo : StructSchema where
  name := "VkDescriptorPoolCreateInfo"
  tag := some 33
  fields := [
    flags "flags" .descriptorPoolCreate, u32 "maxSets", u32 "poolSizeCount",
    (struct "pPoolSizes" .descriptorPoolSize).countedBy "poolSizeCount"]

/-- The layouts of the descriptor sets that are allocated from a pool. -/
def descriptorSetAllocateInfo : StructSchema where
  name := "VkDescriptorSetAllocateInfo"
  tag := some 34
  fields := [
    handle "descriptorPool" .descriptorPool, u32 "descriptorSetCount",
    (handle "pSetLayouts" .descriptorSetLayout).countedBy "descriptorSetCount"]

/-- What a descriptor of an image stands for. -/
def descriptorImageInfo : StructSchema where
  name := "VkDescriptorImageInfo"
  tag := none
  fields := [
    handle "sampler" .sampler, handle "imageView" .imageView, enum "imageLayout" .imageLayout]

/-- What a descriptor of a buffer stands for. -/
def descriptorBufferInfo : StructSchema where
  name := "VkDescriptorBufferInfo"
  tag := none
  fields := [handle "buffer" .buffer, u64 "offset", u64 "range"]

/-- Descriptors that are written into a set. One number counts those of images, of buffers and of
texel buffers. -/
def writeDescriptorSet : StructSchema where
  name := "VkWriteDescriptorSet"
  tag := some 35
  fields := [
    handle "dstSet" .descriptorSet, u32 "dstBinding", u32 "dstArrayElement",
    u32 "descriptorCount", enum "descriptorType" .descriptorType,
    (struct "pImageInfo" .descriptorImageInfo).optional.countedBy "descriptorCount",
    (struct "pBufferInfo" .descriptorBufferInfo).optional.countedBy "descriptorCount",
    (handle "pTexelBufferView" .bufferView).optional.countedBy "descriptorCount"]

/-- Descriptors that are copied from one set into another. -/
def copyDescriptorSet : StructSchema where
  name := "VkCopyDescriptorSet"
  tag := some 36
  fields := [
    handle "srcSet" .descriptorSet, u32 "srcBinding", u32 "srcArrayElement",
    handle "dstSet" .descriptorSet, u32 "dstBinding", u32 "dstArrayElement",
    u32 "descriptorCount"]

end CallStream.StructSchema
