import CallStream.Call.Basic
import CallStream.Schema.Pipeline
import CallStream.Schema.Resource

/-!
# Calls on buffers, images and shaders

The calls that create and destroy buffers, images, views and shader modules.
-/

namespace CallStream.CallDescriptor

open FieldSpec ParamSpec

/-- Creates a buffer. -/
def createBuffer : CallDescriptor where
  opcode := 20050
  name := "vkCreateBuffer"
  params := [
    object "device" .device, createInfo .bufferCreateInfo, allocator, created "pBuffer" .buffer]
  result := some .i32
  route := .globalState

/-- Destroys a buffer. -/
def destroyBuffer : CallDescriptor where
  opcode := 20051
  name := "vkDestroyBuffer"
  params := [object "device" .device, destroyed "buffer" .buffer, allocator]
  route := .globalState

/-- Creates an image. -/
def createImage : CallDescriptor where
  opcode := 20054
  name := "vkCreateImage"
  params := [
    object "device" .device, createInfo .imageCreateInfo, allocator, created "pImage" .image]
  result := some .i32
  route := .globalState

/-- Destroys an image. -/
def destroyImage : CallDescriptor where
  opcode := 20055
  name := "vkDestroyImage"
  params := [object "device" .device, destroyed "image" .image, allocator]
  route := .globalState

/-- Creates a view of an image. -/
def createImageView : CallDescriptor where
  opcode := 20057
  name := "vkCreateImageView"
  params := [
    object "device" .device, createInfo .imageViewCreateInfo, allocator,
    created "pView" .imageView]
  result := some .i32
  route := .globalState

/-- Destroys a view of an image. -/
def destroyImageView : CallDescriptor where
  opcode := 20058
  name := "vkDestroyImageView"
  params := [object "device" .device, destroyed "imageView" .imageView, allocator]
  route := .globalState

/-- Creates a shader module; the driver does so by itself. -/
def createShaderModule : CallDescriptor where
  opcode := 20059
  name := "vkCreateShaderModule"
  params := [
    object "device" .device, createInfo .shaderModuleCreateInfo, allocator,
    created "pShaderModule" .shaderModule]
  result := some .i32

/-- Destroys a shader module; the driver does so by itself. -/
def destroyShaderModule : CallDescriptor where
  opcode := 20060
  name := "vkDestroyShaderModule"
  params := [object "device" .device, destroyed "shaderModule" .shaderModule, allocator]

end CallStream.CallDescriptor
