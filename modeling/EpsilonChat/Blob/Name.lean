import EpsilonChat.Lib.UnixPath

/-!
# Names of blobs

A `BlobObject` stands for a file in the blob directory; its name is `$BLOBDIR/<name>`.  `from_name`
and `from_path` refuse names with `/`, `\` or NUL, and accept ANY other one, also the empty one, `.`
and `..`; these are no files in the directory.

* `toAbsPath_fromName`: where a blob is;
* `inside_iff`: it is a child of the directory iff its name is an ordinary one;
* **`blobs_inside_iff`**: exactly which names and which paths lead out.
-/

namespace EpsilonChat.Blob
open Lib.Split Lib.UnixPath

/-- what is used of the context; the directory exists, so its path is not empty -/
structure Context where
  blobdir : OsStr
  blobdir_ne : blobdir ≠ []

structure BlobObject where
  blobdir : OsStr
  name : List Char
  deriving DecidableEq, Repr

inductive BlobError where
  /-- "wrong blobdir: {}" -/
  | wrongBlobdir (path : OsStr)
  /-- "wrong name" -/
  | wrongName
  /-- "bad blob name: {}" -/
  | badBlobName (relPath : OsStr)
  /-- "not an acceptable blob name: {name}" -/
  | notAcceptable (name : List Char)
  deriving DecidableEq, Repr

/-! ## the source -/

def blobdirPrefix : List Char := "$BLOBDIR/".toList

def isAcceptibleBlobName (name : List Char) : Bool :=
  if name.contains '/' then false
  else if name.contains '\\' then false
  else if name.contains '\x00' then false
  else true

def withoutBlobdir (name : List Char) : List Char :=
  if blobdirPrefix <+: name then
    match splitOnce '/' name with
    | some (_, rest) => rest
    | none => name
  else name

def fromName (ctx : Context) (name : List Char) : Except BlobError BlobObject :=
  let name := withoutBlobdir name
  if !isAcceptibleBlobName name then .error (.notAcceptable name)
  else .ok { blobdir := ctx.blobdir, name := blobdirPrefix ++ name }

def fromPath (ctx : Context) (path : OsStr) : Except BlobError BlobObject :=
  match stripPrefix path ctx.blobdir with
  | none => .error (.wrongBlobdir path)
  | some relPath =>
    match toStr relPath with
    | none => .error .wrongName
    | some name =>
      if !isAcceptibleBlobName name then .error (.badBlobName relPath) else fromName ctx name

def asName (b : BlobObject) : List Char := b.name

/-- `unwrap` fails without the prefix -/
def toAbsPath (b : BlobObject) : Option OsStr :=
  (stripPrefix (ofChars b.name) (ofChars blobdirPrefix)).map (join b.blobdir)

/-! ## accepted names -/

section
variable {name : List Char} {ctx : Context} {b : BlobObject}

theorem isAcceptible_iff :
    isAcceptibleBlobName name = true ↔ '/' ∉ name ∧ '\\' ∉ name ∧ '\x00' ∉ name := by
  unfold isAcceptibleBlobName
  split
  · simp_all
  · split
    · simp_all
    · split <;> simp_all

theorem withoutBlobdir_append (name : List Char) :
    withoutBlobdir (blobdirPrefix ++ name) = name := by
  have hblobdir : blobdirPrefix = "$BLOBDIR".toList ++ ['/'] := rfl
  have hslash : '/' ∉ "$BLOBDIR".toList := by decide
  have hsplit : splitOnce '/' (blobdirPrefix ++ name) = some ("$BLOBDIR".toList, name) := by
    rw [hblobdir, List.append_assoc]
    exact splitOnce_append hslash name
  rw [withoutBlobdir, if_pos (List.prefix_append _ _), hsplit]

theorem withoutBlobdir_of_not_mem (h : '/' ∉ name) : withoutBlobdir name = name := by
  refine if_neg fun hblobdir => h (hblobdir.subset ?_)
  decide

theorem fromName_iff :
    fromName ctx name = .ok b ↔ isAcceptibleBlobName (withoutBlobdir name) = true ∧
      b = { blobdir := ctx.blobdir, name := blobdirPrefix ++ withoutBlobdir name } := by
  unfold fromName
  dsimp only
  cases isAcceptibleBlobName (withoutBlobdir name) with
  | true => exact ⟨fun h => ⟨rfl, (Except.ok.inj h).symm⟩, fun h => congrArg Except.ok h.2.symm⟩
  | false => exact ⟨nofun, fun h => absurd h.1 Bool.false_ne_true⟩

theorem fromName_asName (h : fromName ctx name = .ok b) : fromName ctx (asName b) = .ok b := by
  obtain ⟨hok, rfl⟩ := fromName_iff.mp h
  rw [fromName_iff]
  dsimp only [asName]
  rw [withoutBlobdir_append]
  exact ⟨hok, rfl⟩

/-! ## where a blob is -/

theorem sep_mem_ofChars {s : List Char} : sep ∈ ofChars s ↔ '/' ∈ s := by
  rw [ofChars, List.mem_map]
  constructor
  · rintro ⟨c, hc, h⟩
    cases h
    exact hc
  · exact fun h => ⟨'/', h, rfl⟩

theorem ofChars_append (s t : List Char) : ofChars (s ++ t) = ofChars s ++ ofChars t :=
  List.map_append

theorem toAbsPath_fromName (dir : OsStr) (h : '/' ∉ name) :
    toAbsPath ⟨dir, blobdirPrefix ++ name⟩ =
      some (join dir (if isSkipped (ofChars name) then [] else ofChars name)) := by
  have hblobdir : ofChars blobdirPrefix = ofChars "$BLOBDIR".toList ++ [sep] := rfl
  have hsep : sep ∉ ofChars "$BLOBDIR".toList := by decide
  rw [toAbsPath]
  dsimp only
  rw [ofChars_append, hblobdir, List.append_assoc]
  exact congrArg (Option.map _) (stripPrefix_piece rfl hsep (mt sep_mem_ofChars.mp h))

theorem components_blob (ctx : Context) (h : '/' ∉ name) :
    ∃ path, toAbsPath ⟨ctx.blobdir, blobdirPrefix ++ name⟩ = some path ∧
      components path = components ctx.blobdir ++ (parsePiece (ofChars name)).toList := by
  refine ⟨_, toAbsPath_fromName ctx.blobdir h, ?_⟩
  cases hskip : isSkipped (ofChars name) with
  | true =>
    rw [if_pos rfl, components_join ctx.blobdir_ne List.not_mem_nil, isSkipped_iff.mp hskip]
    rfl
  | false =>
    rw [if_neg Bool.false_ne_true, components_join ctx.blobdir_ne (mt sep_mem_ofChars.mp h)]

/-- the file is a direct child of the directory, with `.` and `..` resolved -/
def Inside (ctx : Context) (b : BlobObject) : Prop :=
  ∃ path name, toAbsPath b = some path ∧ normalise path = normalise ctx.blobdir ++ [.normal name]

/-- names that are accepted and are no file of the directory -/
def badNames : List (List Char) := ["".toList, ".".toList, "..".toList]

theorem inside_iff (h : '/' ∉ name) :
    Inside ctx ⟨ctx.blobdir, blobdirPrefix ++ name⟩ ↔ name ∉ badNames := by
  obtain ⟨path, hpath, hcomponents⟩ := components_blob ctx h
  have hnormalise := normalise_of_components hcomponents
  have hinj : ∀ {t : List Char}, ofChars name = ofChars t ↔ name = t :=
    List.map_inj_right fun _ _ h => OsUnit.char.inj h
  have hiff : Inside ctx ⟨ctx.blobdir, blobdirPrefix ++ name⟩ ↔
      ∃ n, normalise path = normalise ctx.blobdir ++ [.normal n] := by
    constructor
    · rintro ⟨path', n, hpath', hn⟩
      rw [hpath] at hpath'
      exact ⟨n, Option.some.inj hpath' ▸ hn⟩
    · exact fun ⟨n, hn⟩ => ⟨path, n, hpath, hn⟩
  rw [hiff, hnormalise]
  rcases parsePiece_cases (ofChars name) with ⟨hnone, hname⟩ | ⟨hparent, hname⟩ |
    ⟨hnormal, hnil, hdot, hdots⟩
  · have hbad : name ∈ badNames := by
      rcases hname with hname | hname
      · rw [hinj (t := []) |>.mp hname]
        decide
      · rw [hinj (t := ['.']) |>.mp hname]
        decide
    rw [hnone]
    refine ⟨fun ⟨n, hn⟩ => ?_, fun hgood => absurd hbad hgood⟩
    exact absurd (List.self_eq_append_right.mp hn) (List.cons_ne_nil _ _)
  · have hbad : name ∈ badNames := by
      rw [hinj (t := ['.', '.']) |>.mp hname]
      decide
    rw [hparent]
    exact ⟨fun ⟨n, hn⟩ => absurd hn (push_parentDir_ne _ n), fun hgood => absurd hbad hgood⟩
  · rw [hnormal]
    refine ⟨fun _ hbad => ?_, fun _ => ⟨_, rfl⟩⟩
    rcases List.mem_cons.mp hbad with rfl | hbad
    · exact hnil rfl
    · rcases List.mem_cons.mp hbad with rfl | hbad
      · exact hdot rfl
      · rw [List.mem_singleton.mp hbad] at hdots
        exact hdots rfl

/-! ## paths -/

theorem toStr_ofChars (s : List Char) : toStr (ofChars s) = some s := by
  induction s with
  | nil => rfl
  | cons c s ih =>
    have hrest : (ofChars s).mapM OsUnit.toChar? = some s := ih
    rw [toStr, ofChars, List.map_cons, List.mapM_cons, ← ofChars, hrest]
    rfl

theorem eq_ofChars {p : OsStr} {s : List Char} (h : toStr p = some s) : p = ofChars s := by
  induction p generalizing s with
  | nil =>
    rw [← Option.some.inj h]
    rfl
  | cons x p ih =>
    rw [toStr, List.mapM_cons] at h
    cases x with
    | byte b => cases h
    | char c =>
      rcases hrest : p.mapM OsUnit.toChar? with _ | rest
      · rw [hrest] at h
        cases h
      · rw [hrest] at h
        rw [← Option.some.inj h, ih hrest]
        rfl

/-- the path of the directory, or of the directory above it -/
def LeadsOut (ctx : Context) (path : OsStr) : Prop :=
  components path = components ctx.blobdir ∨
    components path = components ctx.blobdir ++ [.parentDir]

theorem fromPath_ok {path : OsStr} (h : fromPath ctx path = .ok b) :
    ∃ name, '/' ∉ name ∧ fromName ctx name = .ok b ∧
      components path = components ctx.blobdir ++ (parsePiece (ofChars name)).toList := by
  rw [fromPath] at h
  rcases stripPrefix_cases (p := path) ctx.blobdir_ne with ⟨rest, hstrip, hpath⟩ | ⟨hnone, _⟩
  case inr =>
    rw [hnone] at h
    cases h
  rw [hstrip] at h
  dsimp only at h
  rcases hname : toStr (joinPieces (trimPieces rest)) with _ | name
  · rw [hname] at h
    cases h
  · rw [hname] at h
    dsimp only at h
    split at h
    · cases h
    · rename_i hok
      have hslash : '/' ∉ name := (isAcceptible_iff.mp (by simpa using hok)).1
      have hrel := eq_ofChars hname
      refine ⟨name, hslash, h, ?_⟩
      rw [hpath, ← hrel]
      rcases trimPieces_cases rest with ⟨hnil, htrim⟩ | ⟨piece, c, hone, hc, htrim⟩ | ⟨_, hmany⟩
      · rw [hnil, htrim]
        rfl
      · rw [hone, htrim, joinPieces_singleton, hc]
        rfl
      · have hsep := sep_mem_joinPieces hmany
        rw [hrel, sep_mem_ofChars] at hsep
        exact absurd hsep hslash

theorem fromPath_of_leadsOut {path : OsStr} (h : LeadsOut ctx path) :
    ∃ name ∈ badNames, fromPath ctx path = .ok ⟨ctx.blobdir, blobdirPrefix ++ name⟩ := by
  obtain ⟨tail, htail, hpath⟩ : ∃ tail, (tail = [] ∨ tail = [Component.parentDir]) ∧
      components path = components ctx.blobdir ++ tail := by
    rcases h with h | h
    · exact ⟨[], .inl rfl, h.trans (List.append_nil _).symm⟩
    · exact ⟨[.parentDir], .inr rfl, h⟩
  rcases stripPrefix_cases (p := path) ctx.blobdir_ne with ⟨rest, hstrip, hrest⟩ | ⟨_, hnone⟩
  case inr => exact absurd hpath (hnone tail)
  have heq : rest.filterMap parsePiece = tail := List.append_cancel_left (hrest.symm.trans hpath)
  rw [fromPath, hstrip]
  dsimp only
  rcases trimPieces_cases rest with ⟨_, htrim⟩ | ⟨piece, c, hone, hc, htrim⟩ | ⟨hmany, _⟩
  · rw [htrim]
    exact ⟨[], by decide, rfl⟩
  · have hparent : c = .parentDir := by
      rcases htail with rfl | rfl
      · rw [heq] at hone
        cases hone
      · rw [heq] at hone
        exact (List.cons.inj hone).1.symm
    have hpiece : piece = ofChars ['.', '.'] := by
      rw [hparent] at hc
      exact parsePiece_eq_parentDir_iff.mp hc
    rw [htrim, joinPieces_singleton, hpiece, toStr_ofChars]
    exact ⟨['.', '.'], by decide, rfl⟩
  · rw [heq] at hmany
    rcases htail with rfl | rfl
    · exact absurd hmany (by decide)
    · exact absurd hmany (by decide)

/-! ## which names and paths are safe -/

theorem withoutBlobdir_mem_badNames :
    withoutBlobdir name ∈ badNames ↔
      name ∈ badNames ∨ name ∈ badNames.map (blobdirPrefix ++ ·) := by
  by_cases hblobdir : blobdirPrefix <+: name
  · obtain ⟨rest, rfl⟩ := hblobdir
    have hnot : blobdirPrefix ++ rest ∉ badNames := by
      intro hmem
      have hlen : ∀ n ∈ badNames, n.length ≤ 2 := by decide
      have hle := hlen _ hmem
      rw [List.length_append] at hle
      have hnine : blobdirPrefix.length = 9 := rfl
      omega
    rw [withoutBlobdir_append, List.mem_map]
    constructor
    · exact fun h => .inr ⟨rest, h, rfl⟩
    · rintro (h | ⟨n, hn, heq⟩)
      · exact absurd h hnot
      · rwa [← List.append_cancel_left heq]
  · have hsame : withoutBlobdir name = name := if_neg hblobdir
    rw [hsame]
    constructor
    · exact .inl
    · rintro (h | h)
      · exact h
      · obtain ⟨n, _, rfl⟩ := List.mem_map.mp h
        exact absurd (List.prefix_append _ _) hblobdir

theorem isAcceptible_of_bad (h : name ∈ badNames) : isAcceptibleBlobName name = true := by
  have hall : ∀ n ∈ badNames, isAcceptibleBlobName n = true := by decide
  exact hall name h

end

/-- **inside the directory.**  A blob from a name is a direct child of the directory IFF the name is
not the empty one, `.` or `..`, with or without `$BLOBDIR/`; a blob from a path IFF the path is not
the one of the directory or of the directory above.  The name of a blob always gives it back. -/
theorem blobs_inside_iff (ctx : Context) :
    (∀ name : List Char,
      (∀ b, fromName ctx name = .ok b → Inside ctx b ∧ fromName ctx (asName b) = .ok b) ↔
        name ∉ badNames ∧ name ∉ badNames.map (blobdirPrefix ++ ·)) ∧
    (∀ path : OsStr,
      (∀ b, fromPath ctx path = .ok b → Inside ctx b ∧ fromName ctx (asName b) = .ok b) ↔
        ¬ LeadsOut ctx path) := by
  have hbadSlash : ∀ n ∈ badNames, '/' ∉ n := by decide
  refine ⟨fun name => ?_, fun path => ?_⟩
  · rw [← not_or, ← withoutBlobdir_mem_badNames]
    constructor
    · intro h hbad
      have hok : fromName ctx name = .ok ⟨ctx.blobdir, blobdirPrefix ++ withoutBlobdir name⟩ :=
        fromName_iff.mpr ⟨isAcceptible_of_bad hbad, rfl⟩
      exact (inside_iff (hbadSlash _ hbad)).mp (h _ hok).1 hbad
    · intro hgood b hb
      refine ⟨?_, fromName_asName hb⟩
      obtain ⟨hok, rfl⟩ := fromName_iff.mp hb
      exact (inside_iff (isAcceptible_iff.mp hok).1).mpr hgood
  · constructor
    · intro h hout
      obtain ⟨name, hbad, hok⟩ := fromPath_of_leadsOut hout
      exact (inside_iff (hbadSlash _ hbad)).mp (h _ hok).1 hbad
    · intro hin b hb
      obtain ⟨name, hslash, hname, hpath⟩ := fromPath_ok hb
      refine ⟨?_, fromName_asName hname⟩
      obtain ⟨_, rfl⟩ := fromName_iff.mp hname
      rw [withoutBlobdir_of_not_mem hslash, inside_iff hslash]
      intro hbad
      refine hin ?_
      have hcases : ∀ n ∈ badNames, parsePiece (ofChars n) = none ∨
          parsePiece (ofChars n) = some .parentDir := by decide
      rcases hcases name hbad with h | h
      · rw [h] at hpath
        exact .inl (hpath.trans (List.append_nil _))
      · rw [h] at hpath
        exact .inr hpath

/-- `..` is accepted and is the directory above; the path of the directory itself is accepted -/
theorem blobs_outside :
    (∃ ctx b, fromName ctx "..".toList = .ok b ∧
      (toAbsPath b).map normalise = some [.rootDir] ∧ ¬ Inside ctx b) ∧
    (∃ ctx b, fromPath ctx ctx.blobdir = .ok b ∧ ¬ Inside ctx b) := by
  have hparent : '/' ∉ "..".toList := by decide
  have hempty : '/' ∉ "".toList := by decide
  refine ⟨⟨⟨ofChars "/blobs".toList, by decide⟩, _, rfl, by decide, fun h => ?_⟩,
    ⟨⟨ofChars "/blobs".toList, by decide⟩, _, rfl, fun h => ?_⟩⟩
  · exact (inside_iff hparent).mp h (by decide)
  · exact (inside_iff hempty).mp h (by decide)

end EpsilonChat.Blob
