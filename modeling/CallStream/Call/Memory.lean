import CallStream.Call.Basic

/-!
# Calls on device memory

The calls that allocate, map and bind device memory.
-/

namespace CallStream.CallDescriptor

open FieldSpec ParamSpec

/-- Allocates device memory. -/
def allocateMemory : CallDescriptor where
  opcode := 20021
  name := "vkAllocateMemory"
  params := [
    object "device" .device, input (struct "pAllocateInfo" .memoryAllocateInfo), allocator,
    created "pMemory" .deviceMemory]
  result := some .i32
  route := .globalState

/-- Frees device memory. -/
def freeMemory : CallDescriptor where
  opcode := 20022
  name := "vkFreeMemory"
  params := [object "device" .device, destroyed "memory" .deviceMemory, allocator]
  route := .globalState

/-- Makes the guest's writes to mapped memory known to the device. Its packet carries the bytes of
the ranges. -/
def flushMappedMemoryRanges : CallDescriptor where
  opcode := 20025
  name := "vkFlushMappedMemoryRanges"
  params := [
    object "device" .device, number "memoryRangeCount",
    input ((struct "pMemoryRanges" .mappedMemoryRange).countedBy "memoryRangeCount")]
  result := some .i32
  route := .flushMappedRanges

/-- Makes the device's writes to mapped memory known to the guest. Its reply carries the bytes of
the ranges. -/
def invalidateMappedMemoryRanges : CallDescriptor where
  opcode := 20026
  name := "vkInvalidateMappedMemoryRanges"
  params := [
    object "device" .device, number "memoryRangeCount",
    input ((struct "pMemoryRanges" .mappedMemoryRange).countedBy "memoryRangeCount")]
  result := some .i32
  route := .invalidateMappedRanges

/-- Gives a buffer its memory. -/
def bindBufferMemory : CallDescriptor where
  opcode := 20028
  name := "vkBindBufferMemory"
  params := [
    object "device" .device, object "buffer" .buffer, object "memory" .deviceMemory,
    input (u64 "memoryOffset")]
  result := some .i32
  route := .globalState

/-- Gives an image its memory. -/
def bindImageMemory : CallDescriptor where
  opcode := 20029
  name := "vkBindImageMemory"
  params := [
    object "device" .device, object "image" .image, object "memory" .deviceMemory,
    input (u64 "memoryOffset")]
  result := some .i32
  route := .globalState

/-- Asks what memory a buffer needs. -/
def getBufferMemoryRequirements : CallDescriptor where
  opcode := 20030
  name := "vkGetBufferMemoryRequirements"
  params := [
    object "device" .device, object "buffer" .buffer,
    output (struct "pMemoryRequirements" .memoryRequirements)]

/-- Asks what memory an image needs. The global state answers, unlike for a buffer. -/
def getImageMemoryRequirements : CallDescriptor where
  opcode := 20031
  name := "vkGetImageMemoryRequirements"
  params := [
    object "device" .device, object "image" .image,
    output (struct "pMemoryRequirements" .memoryRequirements)]
  route := .globalState

end CallStream.CallDescriptor
