import CallStream.Names.Enums
import CallStream.Names.Flags
import CallStream.Schema.Basic

/-!
# Structures of render passes

The layouts of the structures that describe framebuffers, attachments and the subpasses that use
them.
-/

namespace CallStream.StructSchema

open FieldSpec

/-- How a framebuffer is created. -/
def framebufferCreateInfo : StructSchema where
  name := "VkFramebufferCreateInfo"
  tag := some 37
  fields := [
    u32 "flags", handle "renderPass" .renderPass, u32 "attachmentCount",
    (handle "pAttachments" .imageView).countedBy "attachmentCount", u32 "width", u32 "height",
    u32 "layers"]

/-- What a render pass does with an attachment. -/
def attachmentDescription : StructSchema where
  name := "VkAttachmentDescription"
  tag := none
  fields := [
    u32 "flags", enum "format" .format, flags "samples" .sampleCount,
    enum "loadOp" .attachmentLoadOp, enum "storeOp" .attachmentStoreOp,
    enum "stencilLoadOp" .attachmentLoadOp, enum "stencilStoreOp" .attachmentStoreOp,
    enum "initialLayout" .imageLayout, enum "finalLayout" .imageLayout]

/-- An attachment of a render pass, and the layout that it is in. -/
def attachmentReference : StructSchema where
  name := "VkAttachmentReference"
  tag := none
  fields := [u32 "attachment", enum "layout" .imageLayout]

/-- The attachments that a subpass reads and writes. -/
def subpassDescription : StructSchema where
  name := "VkSubpassDescription"
  tag := none
  fields := [
    u32 "flags", enum "pipelineBindPoint" .pipelineBindPoint, u32 "inputAttachmentCount",
    (struct "pInputAttachments" .attachmentReference).countedBy "inputAttachmentCount",
    u32 "colorAttachmentCount",
    (struct "pColorAttachments" .attachmentReference).countedBy "colorAttachmentCount",
    (struct "pResolveAttachments" .attachmentReference).optional.countedBy "colorAttachmentCount",
    (struct "pDepthStencilAttachment" .attachmentReference).optional,
    u32 "preserveAttachmentCount",
    (u32 "pPreserveAttachments").countedBy "preserveAttachmentCount"]

/-- What one subpass waits for in another. -/
def subpassDependency : StructSchema where
  name := "VkSubpassDependency"
  tag := none
  fields := [
    u32 "srcSubpass", u32 "dstSubpass", flags "srcStageMask" .pipelineStage,
    flags "dstStageMask" .pipelineStage, flags "srcAccessMask" .access,
    flags "dstAccessMask" .access, flags "dependencyFlags" .dependency]

/-- How a render pass is created. -/
def renderPassCreateInfo : StructSchema where
  name := "VkRenderPassCreateInfo"
  tag := some 38
  fields := [
    u32 "flags", u32 "attachmentCount",
    (struct "pAttachments" .attachmentDescription).countedBy "attachmentCount",
    u32 "subpassCount", (struct "pSubpasses" .subpassDescription).countedBy "subpassCount",
    u32 "dependencyCount",
    (struct "pDependencies" .subpassDependency).countedBy "dependencyCount"]

end CallStream.StructSchema
