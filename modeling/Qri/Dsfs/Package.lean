import Qri.Go.Strings

/-!
Package file paths (the file the sources keep as `base/dsfs/package.go`, lines
20-130): `PackageFile`, `GetHashBase` and `PackageFilepath`.

`GetHashBase` strips a path down to its dataset hash: leading `/`, then each
filesystem type of `muxfs.KnownFSTypes()` in turn if the path starts with it,
leading `/` again, and the first `/`-separated piece. `PackageFilepath` puts a
package file's name under a path, in one of three ways by the filesystem's
type. Whichever way, the hash is the one the path had
(`getHashBase_packageFilepath`), as long as the known types are non-empty,
free of `/`, and none is a prefix of another, so that each can only strip its
own name; their order does not matter.

`muxfs.KnownFSTypes()` and `muxfs.FilestoreType` are defined outside the
sources, so both are parameters here, and the filesystem is its `Type()`.
-/

set_option autoImplicit false

namespace Qri

namespace Dsfs

open Go

/-! ## Model -/

/-- `PackageFile`, a Go `int`. -/
abbrev PackageFile := GoInt

def packageFileUnknown : PackageFile := 0
def packageFileDataset : PackageFile := 1
def packageFileStructure : PackageFile := 2
def packageFileAbstract : PackageFile := 3
def packageFileResources : PackageFile := 4
def packageFileCommit : PackageFile := 5
def packageFileTransform : PackageFile := 6
def packageFileAbstractTransform : PackageFile := 7
def packageFileMeta : PackageFile := 8
def packageFileViz : PackageFile := 9
def packageFileVizScript : PackageFile := 10
def packageFileRenderedViz : PackageFile := 11
def packageFileReadme : PackageFile := 12
def packageFileReadmeScript : PackageFile := 13
def packageFileRenderedReadme : PackageFile := 14
def packageFileStats : PackageFile := 15

/-- `filenames`, in the order of its literal. -/
def filenames : List (PackageFile × GoString) :=
  [(packageFileUnknown, .ofString ""),
   (packageFileDataset, .ofString "dataset.json"),
   (packageFileStructure, .ofString "structure.json"),
   (packageFileAbstract, .ofString "abstract.json"),
   (packageFileAbstractTransform, .ofString "abstract_transform.json"),
   (packageFileResources, .ofString "resources"),
   (packageFileCommit, .ofString "commit.json"),
   (packageFileTransform, .ofString "transform.json"),
   (packageFileMeta, .ofString "meta.json"),
   (packageFileViz, .ofString "viz.json"),
   (packageFileVizScript, .ofString "viz_script"),
   (packageFileRenderedViz, .ofString "index.html"),
   (packageFileReadme, .ofString "readme.json"),
   (packageFileReadmeScript, .ofString "readme.md"),
   (packageFileRenderedReadme, .ofString "readme.html"),
   (packageFileStats, .ofString "stats.json")]

/-- `PackageFile.String`: its file name, the empty string for a value the map
lacks. -/
def PackageFile.string (p : PackageFile) : GoString := (filenames.lookup p).getD []

/-- `PackageFile.Filename`: `fmt.Sprintf("/%s", filenames[p])`. -/
def PackageFile.filename (p : PackageFile) : GoString := slash :: p.string

/-- `GetHashBase`, for the list `muxfs.KnownFSTypes()` returns. -/
def getHashBase (knownFSTypes : List GoString) (path : GoString) : GoString :=
  let path := trimLeft path [slash]
  let path := knownFSTypes.foldl (fun path fsType => trimPrefix path fsType) path
  let path := trimLeft path [slash]
  (split path slash).headD []

/-- `qfs.Filesystem`, by the one method `PackageFilepath` calls. -/
structure Filesystem where
  type : GoString

/-- `PackageFilepath`, for `muxfs.FilestoreType` and `muxfs.KnownFSTypes()`. A
mux filesystem keeps the path and adds the name, an untyped one gives the path
back, and any other puts the hash under its type. -/
def packageFilepath (knownFSTypes : List GoString) (filestoreType : GoString) (fs : Filesystem)
    (path : GoString) (pf : PackageFile) : GoString :=
  let pre := fs.type
  if pre = filestoreType then join [path, pf.string] [slash]
  else if pre = [] then path
  else join [[], pre, getHashBase knownFSTypes path, pf.string] [slash]

/-! ## `GetHashBase` -/

/-- What `GetHashBase` needs of `muxfs.KnownFSTypes()`: each type can only strip
its own name. -/
structure KnownTypesOK (knownFSTypes : List GoString) : Prop where
  ne_nil : ∀ t ∈ knownFSTypes, t ≠ []
  no_slash : ∀ t ∈ knownFSTypes, slash ∉ t
  /-- None is a prefix of another. -/
  unnested : ∀ t ∈ knownFSTypes, ∀ u ∈ knownFSTypes, t <+: u → t = u

section HashBase

variable {knownFSTypes : List GoString}

theorem getHashBase_eq (knownFSTypes : List GoString) (path : GoString) :
    getHashBase knownFSTypes path =
      (trimLeft (knownFSTypes.foldl trimPrefix (trimLeft path [slash])) [slash]).takeWhile
        (· != slash) := by
  simp only [getHashBase, headD_split]

theorem foldl_trimPrefix_nil (types : List GoString) : types.foldl trimPrefix [] = [] := by
  induction types with
  | nil => rfl
  | cons t types ih => simpa using ih

/-- The types are trimmed before the first `/` only. -/
theorem foldl_trimPrefix_append_slash (types : List GoString) (htypes : ∀ t ∈ types, slash ∉ t)
    (s r : GoString) :
    types.foldl trimPrefix (s ++ slash :: r) = types.foldl trimPrefix s ++ slash :: r := by
  induction types generalizing s with
  | nil => rfl
  | cons t types ih =>
    rw [List.foldl_cons, List.foldl_cons, trimPrefix_append_slash (htypes t (List.mem_cons_self _ _)),
      ih (fun t' ht' => htypes t' (List.mem_cons_of_mem _ ht'))]

/-- Once the path starts with `/`, no type matches. -/
theorem foldl_trimPrefix_slash (types : List GoString) (htypes : ∀ t ∈ types, t ≠ [] ∧ slash ∉ t)
    (r : GoString) : types.foldl trimPrefix (slash :: r) = slash :: r := by
  induction types with
  | nil => rfl
  | cons t types ih =>
    obtain ⟨hne, hs⟩ := htypes t (List.mem_cons_self _ _)
    rw [List.foldl_cons, trimPrefix_slash_cons hne hs, ih fun t' ht' => htypes t' (List.mem_cons_of_mem _ ht')]

/-- **The types trim exactly the path's own type.** A path `fsType/r`, its type
among the known ones, loses that type and nothing else, whatever the order. -/
theorem foldl_trimPrefix_type (hok : KnownTypesOK knownFSTypes) {fsType : GoString}
    (hfs : fsType ∈ knownFSTypes) (r : GoString) :
    ∀ types : List GoString, (∀ t ∈ types, t ∈ knownFSTypes) → fsType ∈ types →
      types.foldl trimPrefix (fsType ++ slash :: r) = slash :: r
  | [], _, h => absurd h (List.not_mem_nil _)
  | t :: types, hsub, hmem => by
    have hrest : ∀ t' ∈ types, t' ∈ knownFSTypes := fun t' ht' => hsub t' (List.mem_cons_of_mem _ ht')
    rw [List.foldl_cons]
    by_cases ht : t = fsType
    · -- its own type: trimmed, and then nothing matches
      rw [ht, trimPrefix_self_append]
      exact foldl_trimPrefix_slash types (fun t' ht' =>
        ⟨hok.ne_nil t' (hrest t' ht'), hok.no_slash t' (hrest t' ht')⟩) r
    · -- another type would be a prefix of the path's type
      have hnot : ¬ t <+: fsType ++ slash :: r := fun h => ht (hok.unnested t (hsub t
        (List.mem_cons_self _ _)) fsType hfs (isPrefix_of_isPrefix_append_slash
          (hok.no_slash t (hsub t (List.mem_cons_self _ _))) h))
      rw [trimPrefix_of_not_isPrefix hnot]
      exact foldl_trimPrefix_type hok hfs r types hrest
        ((List.mem_cons.1 hmem).resolve_left (Ne.symm ht))

/-- A hash base that is not empty comes from a path with something besides `/`,
before and after the types are trimmed. -/
theorem trimLeft_ne_nil_of_getHashBase (path : GoString)
    (h : getHashBase knownFSTypes path ≠ []) :
    trimLeft path [slash] ≠ [] ∧
      trimLeft (knownFSTypes.foldl trimPrefix (trimLeft path [slash])) [slash] ≠ [] := by
  rw [getHashBase_eq] at h
  constructor
  · intro h₁
    rw [h₁, foldl_trimPrefix_nil] at h
    exact h rfl
  · intro h₂
    rw [h₂] at h
    exact h rfl

/-- Adding `/r` to a path with a hash base keeps the hash base. -/
theorem getHashBase_append_slash (hok : KnownTypesOK knownFSTypes) {path : GoString}
    (hpath : getHashBase knownFSTypes path ≠ []) (r : GoString) :
    getHashBase knownFSTypes (path ++ slash :: r) = getHashBase knownFSTypes path := by
  obtain ⟨h₁, h₂⟩ := trimLeft_ne_nil_of_getHashBase path hpath
  rw [getHashBase_eq, getHashBase_eq, trimLeft_append h₁,
    foldl_trimPrefix_append_slash _ hok.no_slash, trimLeft_append h₂, takeWhile_append_slash]

/-- The hash base of `/fsType/h/r`, for a known type and a hash `h`, is `h`. -/
theorem getHashBase_typed (hok : KnownTypesOK knownFSTypes) {fsType : GoString}
    (hfs : fsType ∈ knownFSTypes) {h : GoString} (hne : h ≠ []) (hs : slash ∉ h) (r : GoString) :
    getHashBase knownFSTypes (slash :: (fsType ++ slash :: (h ++ slash :: r))) = h := by
  have hf : trimLeft fsType [slash] = fsType :=
    trimLeft_of_not_mem (hok.ne_nil _ hfs) (hok.no_slash _ hfs)
  have hh : trimLeft h [slash] = h := trimLeft_of_not_mem hne hs
  rw [getHashBase_eq, trimLeft_slash_cons, trimLeft_append (hf.symm ▸ hok.ne_nil _ hfs), hf,
    foldl_trimPrefix_type hok hfs _ knownFSTypes (fun _ => id) hfs, trimLeft_slash_cons,
    trimLeft_append (hh.symm ▸ hne), hh, takeWhile_append_slash, takeWhile_of_not_mem hs]

end HashBase

/-! ## `PackageFilepath` keeps the hash -/

/-- **A package file's path has the hash of the path it was built from**, for a
mux, an untyped, or a known-typed filesystem, and every package file. -/
theorem getHashBase_packageFilepath (knownFSTypes : List GoString) (filestoreType : GoString)
    (hok : KnownTypesOK knownFSTypes) (fs : Filesystem)
    (hfs : fs.type = filestoreType ∨ fs.type = [] ∨ fs.type ∈ knownFSTypes)
    (path : GoString) (hpath : getHashBase knownFSTypes path ≠ []) (pf : PackageFile) :
    getHashBase knownFSTypes (packageFilepath knownFSTypes filestoreType fs path pf) =
      getHashBase knownFSTypes path := by
  simp only [packageFilepath]
  split_ifs with hmux hnil
  · -- `path/name`
    rw [join_pair, List.append_assoc, List.singleton_append]
    exact getHashBase_append_slash hok hpath pf.string
  · -- the path itself
    rfl
  · -- `/type/hash/name`
    have hmem : fs.type ∈ knownFSTypes := (hfs.resolve_left hmux).resolve_left hnil
    have hs : slash ∉ getHashBase knownFSTypes path := by
      rw [getHashBase_eq]
      exact not_mem_takeWhile _
    simp only [join, List.nil_append, List.append_assoc, List.singleton_append, List.cons_append]
    exact getHashBase_typed hok hmem hpath hs pf.string

/-- The hash of an IPFS path, under each of the three kinds of filesystem. -/
theorem getHashBase_packageFilepath_ipfs :
    let knownFSTypes := [GoString.ofString "ipfs", .ofString "local", .ofString "mem"]
    let path := GoString.ofString "/ipfs/QmHash"
    KnownTypesOK knownFSTypes ∧ getHashBase knownFSTypes path ≠ [] ∧
      ∀ fs ∈ [Filesystem.mk (.ofString "mux"), ⟨[]⟩, ⟨.ofString "mem"⟩],
        getHashBase knownFSTypes (packageFilepath knownFSTypes (.ofString "mux") fs path
          packageFileDataset) = .ofString "QmHash" := by
  intro knownFSTypes path
  have hok : KnownTypesOK knownFSTypes := ⟨by decide, by decide, by decide⟩
  have hpath : getHashBase knownFSTypes path ≠ [] := by decide
  refine ⟨hok, hpath, fun fs hfs => ?_⟩
  have hty : fs.type = .ofString "mux" ∨ fs.type = [] ∨ fs.type ∈ knownFSTypes := by
    simp only [List.mem_cons, List.not_mem_nil, or_false] at hfs
    rcases hfs with rfl | rfl | rfl <;> decide
  rw [getHashBase_packageFilepath knownFSTypes _ hok fs hty path hpath]
  decide

end Dsfs

end Qri
