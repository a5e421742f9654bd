import CallStream.Call.Basic
import CallStream.Schema.Pipeline

/-!
# Calls on pipelines and samplers

The calls that create and destroy pipelines, their layouts and caches, and samplers.
-/

namespace CallStream.CallDescriptor

open FieldSpec ParamSpec

/-- Creates a pipeline cache; the driver does so by itself. -/
def createPipelineCache : CallDescriptor where
  opcode := 20061
  name := "vkCreatePipelineCache"
  params := [
    object "device" .device, createInfo .pipelineCacheCreateInfo, allocator,
    created "pPipelineCache" .pipelineCache]
  result := some .i32

/-- Destroys a pipeline cache; the driver does so by itself. -/
def destroyPipelineCache : CallDescriptor where
  opcode := 20062
  name := "vkDestroyPipelineCache"
  params := [object "device" .device, destroyed "pipelineCache" .pipelineCache, allocator]

/-- Creates graphics pipelines, as many as there are descriptions of them. -/
def createGraphicsPipelines : CallDescriptor where
  opcode := 20065
  name := "vkCreateGraphicsPipelines"
  params := [
    object "device" .device, object "pipelineCache" .pipelineCache, number "createInfoCount",
    input ((struct "pCreateInfos" .graphicsPipelineCreateInfo).countedBy "createInfoCount"),
    allocator, (output ((handle "pPipelines" .pipeline).countedBy "createInfoCount")).creating]
  result := some .i32

/-- Destroys a pipeline. -/
def destroyPipeline : CallDescriptor where
  opcode := 20067
  name := "vkDestroyPipeline"
  params := [object "device" .device, destroyed "pipeline" .pipeline, allocator]

/-- Creates a layout of pipelines. Only this call and the next one want the lock of the global
state, though the driver carries them out. -/
def createPipelineLayout : CallDescriptor where
  opcode := 20068
  name := "vkCreatePipelineLayout"
  params := [
    object "device" .device, createInfo .pipelineLayoutCreateInfo, allocator,
    created "pPipelineLayout" .pipelineLayout]
  result := some .i32
  needsLock := true

/-- Destroys a layout of pipelines. -/
def destroyPipelineLayout : CallDescriptor where
  opcode := 20069
  name := "vkDestroyPipelineLayout"
  params := [object "device" .device, destroyed "pipelineLayout" .pipelineLayout, allocator]
  needsLock := true

/-- Creates a sampler. -/
def createSampler : CallDescriptor where
  opcode := 20070
  name := "vkCreateSampler"
  params := [
    object "device" .device, createInfo .samplerCreateInfo, allocator,
    created "pSampler" .sampler]
  result := some .i32
  route := .globalState

/-- Destroys a sampler. -/
def destroySampler : CallDescriptor where
  opcode := 20071
  name := "vkDestroySampler"
  params := [object "device" .device, destroyed "sampler" .sampler, allocator]
  route := .globalState

end CallStream.CallDescriptor
