import ImageDispatch.Rehearsal.Cast

/-!
# Libraries for rehearsals

Five libraries stand on a shelf: one with extensions of every family, one with an empty table, one
with tables of all odd forms, and two that cannot be opened.

* `shelfPath`: the path of a library on the shelf.
* `shelfScripts`: the extensions in them. They note nothing.
* `shelfLoader`: loads a library.
-/

namespace ImageDispatch.Rehearsal

/-- The path of the library of a name. -/
def shelfPath (name : String) : String := s!"@/libvendor_{name}.so"

/-! ## Extensions -/

/-- A conversion between two color spaces, of one format. -/
def plainConversion (input output : ColorDescription) (rank : Rank) : Declared ConversionCoverage :=
  ⟨⟨input, output, [(.rgba8888, [.rgba8888])]⟩, rank, 3⟩

/-- A converter in a library. -/
def shelfConverter (name : String) (input output : ColorDescription) (rank : Rank)
    (first second : UInt8) : ExtensionScript where
  name
  version := "3.0"
  role := .converter [plainConversion input output rank]
  effect := (.fill first, .fill second)
  manner := .silent

/-- The detail enhancer in a library. -/
def shelfDetail : ExtensionScript where
  name := "v.detail"
  version := "3.1"
  role := .detail [⟨[.none, .video], .default, 1⟩]
  effect := (.fill 0xde, .fill 0xde)
  manner := .silent

/-- The HDR enhancer in a library, which lacks its model. -/
def shelfHdr : ExtensionScript where
  name := "v.aihdr"
  version := "3.2"
  role := .hdr [⟨[.nv12], .high, 2⟩]
  outcomes
    | .process => [.error (.invalidState "vendor model missing")]
    | _ => []
  manner := .silent

/-- The metadata generator in a library. -/
def shelfMetadata : ExtensionScript where
  name := "v.meta"
  version := "3.3"
  role := .metadata [⟨⟨.srgb, [.rgba8888], .image⟩, .default, 4⟩]
  effect := (.stamp #[9, 8, 7] none, .number)
  manner := .silent

/-- The choice of a refresh rate in a library. -/
def shelfRefresh : ExtensionScript where
  name := "odd.vrr"
  version := "0"
  role := .refresh [⟨(), .default, 1⟩]
  rate := 1
  manner := .silent

/-- The converters of the full library. -/
def converterScripts : List ExtensionScript :=
  [shelfConverter "v.csc" .srgb .displayP3 .default 0xa1 0xa1,
    shelfConverter "v.csc.hi" .displayP3 .srgb .high 0xa2 0xa2]

/-- The enhancers of the full library. -/
def enhancerScripts : List ExtensionScript := [shelfDetail, shelfHdr]

/-- The composer of the full library. -/
def composeScripts : List ExtensionScript :=
  [shelfConverter "v.compose" .srgb .displayP3 .default 0xc1 0xc1]

/-- The decomposer of the full library. -/
def decomposeScripts : List ExtensionScript :=
  [shelfConverter "v.decompose" .srgb .displayP3 .default 0xd1 0xd2]

/-- Every extension on the shelf. -/
def shelfScripts : List ExtensionScript :=
  converterScripts ++ enhancerScripts ++ composeScripts ++ decomposeScripts ++
    [shelfMetadata, shelfRefresh]

/-! ## Libraries -/

/-- An entry with a name. -/
def namedEntry (name : String) (register : Option (Register Memory)) :
    RegistrationEntry (Register Memory) :=
  ⟨some name.toUTF8.toList, register⟩

/-- A table of entries, all of which count. -/
def fullTable (entries : List (RegistrationEntry (Register Memory))) :
    Option (Export (Register Memory)) :=
  some (.table (some ⟨boundaryVersion, entries.length, some entries⟩))

/-- The library with extensions of every family, numbered from `first` on. -/
def fullLibrary (first : Nat) : Library (Register Memory) where
  symbol?
    | .general =>
      fullTable [namedEntry "converters" (some (registerFrom first converterScripts)),
        namedEntry "enhancers" (some (registerFrom (first + 2) enhancerScripts))]
    | .compose => fullTable [namedEntry "compose" (some (registerFrom (first + 4) composeScripts))]
    | .decompose =>
      fullTable [namedEntry "decompose" (some (registerFrom (first + 5) decomposeScripts))]
    | .metadata => some (.callback (registerFrom (first + 6) [shelfMetadata]))

/-- The library with an empty table. -/
def generalLibrary : Library (Register Memory) where
  symbol?
    | .general => some (.table (some ⟨boundaryVersion, 0, none⟩))
    | _ => none

/-- The library with tables of all odd forms. -/
def oddLibrary (first : Nat) : Library (Register Memory) where
  symbol?
    | .general => some (.table none)
    | .compose => some (.table (some ⟨2, 0, none⟩))
    | .decompose =>
      let register := registerFrom (first + 7) [shelfRefresh]
      fullTable [⟨none, none⟩, ⟨none, some register⟩, namedEntry "late" (some register)]
    | .metadata => none

/-- Loads a library from the shelf. -/
def shelfLoader (first : Nat) (path : String) : Except String (Library (Register Memory)) :=
  if path = shelfPath "full" then .ok (fullLibrary first)
  else if path = shelfPath "general" then .ok generalLibrary
  else if path = shelfPath "odd" then .ok (oddLibrary first)
  else if path = shelfPath "bogus" then .error "invalid file header"
  else .error "cannot open shared object file"

end ImageDispatch.Rehearsal
