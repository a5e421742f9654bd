import CallStream.Call.Basic
import CallStream.Names.Enums

/-!
# Calls on instances, devices and queues

The calls with which a guest sets up instances and devices and submits work to queues.
-/

namespace CallStream.CallDescriptor

open FieldSpec ParamSpec

/-- Creates an instance. This is the first call, and there is no object to issue it on. -/
def createInstance : CallDescriptor where
  opcode := 20000
  name := "vkCreateInstance"
  params := [createInfo .instanceCreateInfo, allocator, created "pInstance" .instanceHandle]
  result := some .i32
  route := .globalState

/-- Destroys an instance. Its handle stays in the table. -/
def destroyInstance : CallDescriptor where
  opcode := 20001
  name := "vkDestroyInstance"
  params := [object "instance" .instanceHandle, allocator]
  route := .globalState

/-- Lists the physical devices, or only counts them if the guest leaves no room for them. -/
def enumeratePhysicalDevices : CallDescriptor where
  opcode := 20002
  name := "vkEnumeratePhysicalDevices"
  params := [
    object "instance" .instanceHandle, output ((u32 "pPhysicalDeviceCount").optional),
    (output ((handle "pPhysicalDevices" .physicalDevice).optional.countedBy
      "pPhysicalDeviceCount")).creating]
  result := some .i32
  route := .globalState

/-- Asks what images and buffers of a format can be used for. -/
def getPhysicalDeviceFormatProperties : CallDescriptor where
  opcode := 20004
  name := "vkGetPhysicalDeviceFormatProperties"
  params := [
    object "physicalDevice" .physicalDevice, input (enum "format" .format),
    output (struct "pFormatProperties" .formatProperties)]
  route := .globalState

/-- Creates a device. -/
def createDevice : CallDescriptor where
  opcode := 20011
  name := "vkCreateDevice"
  params := [
    object "physicalDevice" .physicalDevice, createInfo .deviceCreateInfo, allocator,
    created "pDevice" .device]
  result := some .i32
  route := .globalState

/-- Destroys a device. Its handle stays in the table. -/
def destroyDevice : CallDescriptor where
  opcode := 20012
  name := "vkDestroyDevice"
  params := [object "device" .device, allocator]
  route := .globalState

/-- Gives a handle for a queue of a device. -/
def getDeviceQueue : CallDescriptor where
  opcode := 20017
  name := "vkGetDeviceQueue"
  params := [
    object "device" .device, number "queueFamilyIndex", number "queueIndex",
    created "pQueue" .queue]
  route := .globalState

/-- Submits command buffers to a queue. The fence may be null. -/
def queueSubmit : CallDescriptor where
  opcode := 20018
  name := "vkQueueSubmit"
  params := [
    object "queue" .queue, number "submitCount",
    input ((struct "pSubmits" .submitInfo).countedBy "submitCount"), object "fence" .fence]
  result := some .i32
  route := .globalState

/-- Waits until a queue has nothing to do. -/
def queueWaitIdle : CallDescriptor where
  opcode := 20019
  name := "vkQueueWaitIdle"
  params := [object "queue" .queue]
  result := some .i32
  route := .globalState

/-- Waits until a device has nothing to do. -/
def deviceWaitIdle : CallDescriptor where
  opcode := 20020
  name := "vkDeviceWaitIdle"
  params := [object "device" .device]
  result := some .i32

end CallStream.CallDescriptor
