import CallStream.Call.Basic

/-!
# Calls on fences and semaphores

The calls that create, wait for and destroy synchronisation objects.
-/

namespace CallStream.CallDescriptor

open FieldSpec ParamSpec

/-- Creates a fence. -/
def createFence : CallDescriptor where
  opcode := 20035
  name := "vkCreateFence"
  params := [
    object "device" .device, createInfo .fenceCreateInfo, allocator, created "pFence" .fence]
  result := some .i32

/-- Destroys a fence. -/
def destroyFence : CallDescriptor where
  opcode := 20036
  name := "vkDestroyFence"
  params := [object "device" .device, destroyed "fence" .fence, allocator]

/-- Resets fences. -/
def resetFences : CallDescriptor where
  opcode := 20037
  name := "vkResetFences"
  params := [
    object "device" .device, number "fenceCount",
    input ((handle "pFences" .fence).countedBy "fenceCount")]
  result := some .i32

/-- Asks whether a fence is signaled; its result code says so. -/
def getFenceStatus : CallDescriptor where
  opcode := 20038
  name := "vkGetFenceStatus"
  params := [object "device" .device, object "fence" .fence]
  result := some .i32

/-- Waits for one or all of some fences. -/
def waitForFences : CallDescriptor where
  opcode := 20039
  name := "vkWaitForFences"
  params := [
    object "device" .device, number "fenceCount",
    input ((handle "pFences" .fence).countedBy "fenceCount"), input (u32 "waitAll"),
    input (u64 "timeout")]
  result := some .i32

/-- Creates a semaphore. -/
def createSemaphore : CallDescriptor where
  opcode := 20040
  name := "vkCreateSemaphore"
  params := [
    object "device" .device, createInfo .semaphoreCreateInfo, allocator,
    created "pSemaphore" .semaphore]
  result := some .i32
  route := .globalState

/-- Destroys a semaphore. -/
def destroySemaphore : CallDescriptor where
  opcode := 20041
  name := "vkDestroySemaphore"
  params := [object "device" .device, destroyed "semaphore" .semaphore, allocator]
  route := .globalState

end CallStream.CallDescriptor
