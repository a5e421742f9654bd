import CallStream.Call.Basic
import CallStream.Schema.Descriptor

/-!
# Calls on descriptor sets

The calls that lay out, allocate and update descriptor sets.
-/

namespace CallStream.CallDescriptor

open FieldSpec ParamSpec

/-- Creates a layout of descriptor sets. -/
def createDescriptorSetLayout : CallDescriptor where
  opcode := 20072
  name := "vkCreateDescriptorSetLayout"
  params := [
    object "device" .device, createInfo .descriptorSetLayoutCreateInfo, allocator,
    created "pSetLayout" .descriptorSetLayout]
  result := some .i32
  route := .globalState

/-- Destroys a layout of descriptor sets. -/
def destroyDescriptorSetLayout : CallDescriptor where
  opcode := 20073
  name := "vkDestroyDescriptorSetLayout"
  params := [
    object "device" .device, destroyed "descriptorSetLayout" .descriptorSetLayout, allocator]
  route := .globalState

/-- Creates a pool of descriptor sets. -/
def createDescriptorPool : CallDescriptor where
  opcode := 20074
  name := "vkCreateDescriptorPool"
  params := [
    object "device" .device, createInfo .descriptorPoolCreateInfo, allocator,
    created "pDescriptorPool" .descriptorPool]
  result := some .i32
  route := .globalState

/-- Destroys a pool of descriptor sets. -/
def destroyDescriptorPool : CallDescriptor where
  opcode := 20075
  name := "vkDestroyDescriptorPool"
  params := [object "device" .device, destroyed "descriptorPool" .descriptorPool, allocator]
  route := .globalState

/-- Allocates descriptor sets from a pool, as many as the structure says. -/
def allocateDescriptorSets : CallDescriptor where
  opcode := 20077
  name := "vkAllocateDescriptorSets"
  params := [
    object "device" .device, input (struct "pAllocateInfo" .descriptorSetAllocateInfo),
    (output ((handle "pDescriptorSets" .descriptorSet).countedAt
      ["pAllocateInfo", "descriptorSetCount"])).creating]
  result := some .i32
  route := .globalState

/-- Writes descriptors into sets and copies them between sets. -/
def updateDescriptorSets : CallDescriptor where
  opcode := 20079
  name := "vkUpdateDescriptorSets"
  params := [
    object "device" .device, number "descriptorWriteCount",
    input ((struct "pDescriptorWrites" .writeDescriptorSet).countedBy "descriptorWriteCount"),
    number "descriptorCopyCount",
    input ((struct "pDescriptorCopies" .copyDescriptorSet).countedBy "descriptorCopyCount")]
  route := .globalState

end CallStream.CallDescriptor
