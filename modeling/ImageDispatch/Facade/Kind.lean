import ImageDispatch.Extension.Identity

/-!
# Kinds of façades

* `FacadeKind`: what a façade is for, with the family of extensions behind it.
* `FacadeKind.usesService`: the bootstrap service is told of some kinds only.
-/

namespace ImageDispatch

/-- The number of a façade, in the order of creation. -/
abbrev FacadeId := Nat

/-- The kind of a façade. -/
inductive FacadeKind
  /-- Conversion between color spaces, composition and decomposition. -/
  | converter
  | metadata
  /-- Detail enhancement of images, with its ladder of levels. -/
  | detail
  /-- Detail enhancement of video. -/
  | videoDetail
  | hdr
  | contrast
  deriving DecidableEq, Inhabited

namespace FacadeKind

/-- The family of extensions behind the façade, for logs, metrics and errors. -/
def family : FacadeKind → String
  | converter => ExtensionType.converter.label
  | metadata => ExtensionType.metadataGenerator.label
  | detail | videoDetail => ExtensionType.detailEnhancer.label
  | hdr => ExtensionType.hdrEnhancer.label
  | contrast => ExtensionType.contrastEnhancer.label

/-- The bootstrap service is told of the façade. -/
def usesService : FacadeKind → Bool
  | detail | videoDetail | hdr => true
  | _ => false

end FacadeKind

end ImageDispatch
