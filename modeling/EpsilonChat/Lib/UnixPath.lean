import EpsilonChat.Lib.Split

/-!
# Unix paths

A path is a string of the operating system: characters, and bytes that belong to none.  It is read
as a list of COMPONENTS: repeated separators and the pieces `.` do not count, except for a `.` in
front of everything; nothing is looked up in a file system.

* `components`: what a path consists of;
* `stripPrefix p base`: what is left of `p` behind the components of `base`;
* `join base p`: `p` below `base`, or `p` itself if it is absolute;
* `normalise`: `.` and `..` resolved lexically;
* `components_join`: joining a single piece adds its component;
* `stripPieces_iff`: a prefix can be stripped iff the components start with its own.
-/

namespace Lib
namespace UnixPath
open Lib.Split

inductive OsUnit where
  | char (c : Char)
  | byte (b : UInt8)
  deriving DecidableEq, Repr

abbrev OsStr := List OsUnit

def sep : OsUnit := .char '/'

def dot : OsStr := [.char '.']

def dotDot : OsStr := [.char '.', .char '.']

def ofChars (s : List Char) : OsStr := s.map .char

def OsUnit.toChar? : OsUnit → Option Char
  | .char c => some c
  | .byte _ => none

def toStr (p : OsStr) : Option (List Char) := p.mapM OsUnit.toChar?

inductive Component where
  | rootDir
  | curDir
  | parentDir
  | normal (name : OsStr)
  deriving DecidableEq, Repr

/-! ## components -/

def parsePiece (piece : OsStr) : Option Component :=
  if piece = [] ∨ piece = dot then none
  else if piece = dotDot then some .parentDir
  else some (.normal piece)

def pieces (p : OsStr) : List OsStr := p.splitOn sep

/-- the root, or a `.` in front -/
def start (p : OsStr) : Option Component :=
  if p.head? = some sep then some .rootDir
  else if (pieces p).head? = some dot then some .curDir
  else none

def components (p : OsStr) : List Component :=
  (start p).toList ++ (pieces p).filterMap parsePiece

def isSkipped (piece : OsStr) : Bool := (parsePiece piece).isNone

def trimPieces (ps : List OsStr) : List OsStr := (ps.dropWhile isSkipped).rdropWhile isSkipped

def joinPieces (ps : List OsStr) : OsStr := [sep].intercalate ps

def stripPieces : List OsStr → List Component → Option (List OsStr)
  | ps, [] => some ps
  | [], _ :: _ => none
  | piece :: ps, c :: cs =>
    match parsePiece piece with
    | none => stripPieces ps (c :: cs)
    | some x => if x = c then stripPieces ps cs else none

/-- without components to strip, only what is skipped at the end is lost -/
def withoutEnd (p : OsStr) : OsStr :=
  match start p with
  | some .rootDir => sep :: joinPieces ((pieces p).tail.rdropWhile isSkipped)
  | some _ => joinPieces (dot :: (pieces p).tail.rdropWhile isSkipped)
  | none => joinPieces ((pieces p).rdropWhile isSkipped)

def stripPrefix (p base : OsStr) : Option OsStr :=
  match start p, components base with
  | _, [] => some (withoutEnd p)
  | some s, c :: cs =>
    if s = c then (stripPieces (pieces p) cs).map fun ps => joinPieces (trimPieces ps) else none
  | none, c :: cs => (stripPieces (pieces p) (c :: cs)).map fun ps => joinPieces (trimPieces ps)

def join (base p : OsStr) : OsStr :=
  if p.head? = some sep then p
  else if base = [] ∨ base.getLast? = some sep then base ++ p
  else base ++ sep :: p

def push (stack : List Component) : Component → List Component
  | .rootDir => [.rootDir]
  | .curDir => stack
  | .parentDir =>
    match stack.getLast? with
    | some (.normal _) => stack.dropLast
    | some .rootDir => stack
    | _ => stack ++ [.parentDir]
  | .normal name => stack ++ [.normal name]

def normalise (p : OsStr) : List Component := (components p).foldl push []

/-! ## pieces -/

section
variable {piece p base : OsStr}

theorem parsePiece_eq_none_iff : parsePiece piece = none ↔ piece = [] ∨ piece = dot := by
  unfold parsePiece
  split
  case isTrue h => exact ⟨fun _ => h, fun _ => rfl⟩
  case isFalse h =>
    refine ⟨fun hnone => ?_, fun h' => absurd h' h⟩
    split at hnone <;> cases hnone

theorem parsePiece_eq_parentDir_iff : parsePiece piece = some .parentDir ↔ piece = dotDot := by
  unfold parsePiece
  constructor
  · intro h
    split at h
    · cases h
    · split at h
      case isTrue hdots => exact hdots
      case isFalse => cases h
  · rintro rfl
    rfl

theorem parsePiece_cases (piece : OsStr) :
    (parsePiece piece = none ∧ (piece = [] ∨ piece = dot)) ∨
      (parsePiece piece = some .parentDir ∧ piece = dotDot) ∨
      (parsePiece piece = some (.normal piece) ∧ piece ≠ [] ∧ piece ≠ dot ∧ piece ≠ dotDot) := by
  by_cases hskip : piece = [] ∨ piece = dot
  · exact .inl ⟨parsePiece_eq_none_iff.mpr hskip, hskip⟩
  · by_cases hdots : piece = dotDot
    · exact .inr (.inl ⟨parsePiece_eq_parentDir_iff.mpr hdots, hdots⟩)
    · obtain ⟨hnil, hdot⟩ := not_or.mp hskip
      refine .inr (.inr ⟨?_, hnil, hdot, hdots⟩)
      rw [parsePiece, if_neg hskip, if_neg hdots]

theorem pieces_append (front : OsStr) (hp : sep ∉ p) :
    pieces (front ++ sep :: p) = pieces front ++ [p] := by
  rw [pieces, List.splitOn_append_cons_self, List.splitOn_eq_singleton hp, pieces]

theorem head?_pieces_append (front : OsStr) (ps : List OsStr) :
    (pieces front ++ ps).head? = (pieces front).head? :=
  List.head?_append_of_ne_nil _ (List.splitOn_ne_nil _ _)

theorem start_append (front : OsStr) {q : OsStr} (hp : sep ∉ p) (hq : sep ∉ q) :
    start (front ++ sep :: p) = start (front ++ sep :: q) := by
  have hhead : (front ++ sep :: p).head? = (front ++ sep :: q).head? := by
    rcases front with _ | ⟨x, front⟩ <;> rfl
  rw [start, start, hhead, pieces_append front hp, pieces_append front hq, head?_pieces_append,
    head?_pieces_append]

theorem filterMap_concat (ps : List OsStr) (p : OsStr) :
    (ps ++ [p]).filterMap parsePiece = ps.filterMap parsePiece ++ (parsePiece p).toList := by
  rw [List.filterMap_append]
  cases h : parsePiece p <;> simp [h]

theorem components_append (front : OsStr) (hp : sep ∉ p) :
    components (front ++ sep :: p) = components (front ++ [sep]) ++ (parsePiece p).toList := by
  rw [components, components, start_append front hp List.not_mem_nil, pieces_append front hp,
    pieces_append front List.not_mem_nil, filterMap_concat, filterMap_concat]
  show _ = _ ++ (_ ++ []) ++ _
  rw [List.append_nil, List.append_assoc]

theorem components_concat_sep (hp : p ≠ []) : components (p ++ [sep]) = components p := by
  have hhead : (p ++ [sep]).head? = p.head? := List.head?_append_of_ne_nil _ hp
  rw [components, components, start, start, hhead, pieces_append p List.not_mem_nil,
    head?_pieces_append, filterMap_concat]
  show _ ++ (_ ++ []) = _
  rw [List.append_nil]

theorem components_join (hbase : base ≠ []) (hp : sep ∉ p) :
    components (join base p) = components base ++ (parsePiece p).toList := by
  have hhead : ¬ p.head? = some sep := fun h => hp (List.mem_of_mem_head? h)
  rw [join, if_neg hhead]
  by_cases hlast : base.getLast? = some sep
  · obtain ⟨front, rfl⟩ := List.getLast?_eq_some_iff.mp hlast
    rw [if_pos (.inr hlast), List.append_assoc]
    exact components_append front hp
  · rw [if_neg (not_or.mpr ⟨hbase, hlast⟩), components_append base hp, components_concat_sep hbase]

/-! ## stripping a prefix -/

theorem stripPieces_iff {ps : List OsStr} {cs tail : List Component} :
    (∃ rest, stripPieces ps cs = some rest ∧ rest.filterMap parsePiece = tail) ↔
      ps.filterMap parsePiece = cs ++ tail := by
  induction ps generalizing cs with
  | nil =>
    rcases cs with _ | ⟨c, cs⟩
    · exact ⟨fun ⟨_, hsome, h⟩ => Option.some.inj hsome ▸ h, fun h => ⟨[], rfl, h⟩⟩
    · exact ⟨fun ⟨_, hsome, _⟩ => absurd hsome (Option.some_ne_none _).symm, nofun⟩
  | cons piece ps ih =>
    rcases cs with _ | ⟨c, cs⟩
    · exact ⟨fun ⟨_, hsome, h⟩ => Option.some.inj hsome ▸ h, fun h => ⟨piece :: ps, rfl, h⟩⟩
    · rw [stripPieces]
      cases hpiece : parsePiece piece with
      | none =>
        rw [List.filterMap_cons_none hpiece]
        exact ih
      | some x =>
        rw [List.filterMap_cons_some hpiece, List.cons_append, List.cons.injEq]
        dsimp only
        by_cases hx : x = c
        · rw [if_pos hx, ih]
          exact ⟨fun h => ⟨hx, h⟩, fun h => h.2⟩
        · rw [if_neg hx]
          exact ⟨fun ⟨_, hsome, _⟩ => absurd hsome (Option.some_ne_none _).symm,
            fun h => absurd h.1 hx⟩

theorem components_ne_nil (hp : p ≠ []) : components p ≠ [] := by
  obtain ⟨x, rest, rfl⟩ := List.exists_cons_of_ne_nil hp
  by_cases hx : x = sep
  · have hstart : start (x :: rest) = some .rootDir := if_pos (congrArg some hx)
    rw [components, hstart]
    exact List.cons_ne_nil _ _
  · obtain ⟨hd, tl, hs⟩ := splitOn_eq_cons sep rest
    have hpieces : pieces (x :: rest) = (x :: hd) :: tl := splitOn_cons_of_ne hx hs
    rcases parsePiece_cases (x :: hd) with ⟨_, hnil | hdot⟩ | ⟨hsome, _⟩ | ⟨hsome, _⟩
    · cases hnil
    · have hstart : start (x :: rest) = some .curDir := by
        have hhead : ¬ (x :: rest).head? = some sep := fun h => hx (Option.some.inj h)
        rw [start, if_neg hhead, hpieces, hdot]
        rfl
      rw [components, hstart]
      exact List.cons_ne_nil _ _
    · rw [components, hpieces, List.filterMap_cons_some hsome]
      exact List.append_ne_nil_of_right_ne_nil _ (List.cons_ne_nil _ _)
    · rw [components, hpieces, List.filterMap_cons_some hsome]
      exact List.append_ne_nil_of_right_ne_nil _ (List.cons_ne_nil _ _)

theorem stripPrefix_cases (hbase : base ≠ []) :
    (∃ rest, stripPrefix p base = some (joinPieces (trimPieces rest)) ∧
      components p = components base ++ rest.filterMap parsePiece) ∨
    (stripPrefix p base = none ∧ ∀ tail, components p ≠ components base ++ tail) := by
  obtain ⟨c, cs, hcs⟩ := List.exists_cons_of_ne_nil (components_ne_nil hbase)
  have hstrip : ∀ cs', (∃ rest, stripPieces (pieces p) cs' = some rest ∧
      (pieces p).filterMap parsePiece = cs' ++ rest.filterMap parsePiece) ∨
      (stripPieces (pieces p) cs' = none ∧
        ∀ tail, (pieces p).filterMap parsePiece ≠ cs' ++ tail) := by
    intro cs'
    cases hrest : stripPieces (pieces p) cs' with
    | some rest => exact .inl ⟨rest, rfl, stripPieces_iff.mp ⟨rest, hrest, rfl⟩⟩
    | none =>
      refine .inr ⟨rfl, fun tail htail => ?_⟩
      obtain ⟨rest, hsome, _⟩ := stripPieces_iff.mpr htail
      rw [hrest] at hsome
      cases hsome
  unfold stripPrefix
  rw [hcs]
  cases hstart : start p with
  | none =>
    have hcomponents : components p = (pieces p).filterMap parsePiece := by
      rw [components, hstart]
      rfl
    rw [hcomponents]
    rcases hstrip (c :: cs) with ⟨rest, hrest, htail⟩ | ⟨hnone, htail⟩
    · exact .inl ⟨rest, congrArg (Option.map _) hrest, htail⟩
    · exact .inr ⟨congrArg (Option.map _) hnone, htail⟩
  | some s =>
    have hcomponents : components p = s :: (pieces p).filterMap parsePiece := by
      rw [components, hstart]
      rfl
    rw [hcomponents]
    dsimp only
    by_cases hs : s = c
    · subst hs
      rw [if_pos rfl]
      rcases hstrip cs with ⟨rest, hrest, htail⟩ | ⟨hnone, htail⟩
      · exact .inl ⟨rest, congrArg (Option.map _) hrest, congrArg (s :: ·) htail⟩
      · exact .inr ⟨congrArg (Option.map _) hnone,
          fun tail h => htail tail (List.cons.inj h).2⟩
    · rw [if_neg hs]
      exact .inr ⟨rfl, fun tail h => hs (List.cons.inj h).1⟩

/-! ## a single piece -/

theorem isSkipped_iff : isSkipped piece = true ↔ parsePiece piece = none :=
  Option.isNone_iff_eq_none

theorem filterMap_dropWhile (rest : List OsStr) :
    (rest.dropWhile isSkipped).filterMap parsePiece = rest.filterMap parsePiece := by
  induction rest with
  | nil => rfl
  | cons piece rest ih =>
    by_cases hpiece : isSkipped piece = true
    · rw [List.dropWhile_cons_of_pos hpiece, ih, List.filterMap_cons_none (isSkipped_iff.mp hpiece)]
    · rw [List.dropWhile_cons_of_neg hpiece]

theorem trimPieces_cases (rest : List OsStr) :
    (rest.filterMap parsePiece = [] ∧ trimPieces rest = []) ∨
      (∃ piece c, rest.filterMap parsePiece = [c] ∧ parsePiece piece = some c ∧
        trimPieces rest = [piece]) ∨
      (2 ≤ (rest.filterMap parsePiece).length ∧ 2 ≤ (trimPieces rest).length) := by
  rw [trimPieces, ← filterMap_dropWhile]
  rcases hdrop : rest.dropWhile isSkipped with _ | ⟨piece, later⟩
  · exact .inl ⟨rfl, rfl⟩
  · have hpiece : isSkipped piece = false := by
      have hhead := List.head?_dropWhile_not isSkipped rest
      rw [hdrop] at hhead
      simpa using hhead
    obtain ⟨c, hc⟩ : ∃ c, parsePiece piece = some c := by
      rcases h : parsePiece piece with _ | c
      · rw [isSkipped_iff.mpr h] at hpiece
        cases hpiece
      · exact ⟨c, rfl⟩
    rw [List.filterMap_cons_some hc, rdropWhile_cons, hpiece]
    by_cases hlater : later.rdropWhile isSkipped = []
    · have hnone : later.filterMap parsePiece = [] := by
        rw [List.filterMap_eq_nil_iff]
        intro x hx
        exact isSkipped_iff.mp (List.rdropWhile_eq_nil_iff.mp hlater x hx)
      rw [if_pos hlater, hnone]
      exact .inr (.inl ⟨piece, c, rfl, hc, rfl⟩)
    · have hsome : later.filterMap parsePiece ≠ [] := by
        intro hnil
        refine hlater (List.rdropWhile_eq_nil_iff.mpr fun x hx => ?_)
        exact isSkipped_iff.mpr (List.filterMap_eq_nil_iff.mp hnil x hx)
      rw [if_neg hlater]
      refine .inr (.inr ⟨?_, ?_⟩)
      · exact Nat.succ_le_succ (List.length_pos_iff.mpr hsome)
      · exact Nat.succ_le_succ (List.length_pos_iff.mpr hlater)

theorem sep_mem_joinPieces {ps : List OsStr} (h : 2 ≤ ps.length) : sep ∈ joinPieces ps := by
  obtain ⟨x, y, ps, rfl⟩ : ∃ x y l, ps = x :: y :: l := by
    match ps, h with
    | x :: y :: l, _ => exact ⟨x, y, l, rfl⟩
  rw [joinPieces, intercalate_cons, List.flatMap_cons]
  simp

theorem joinPieces_singleton (piece : OsStr) : joinPieces [piece] = piece :=
  List.intercalate_singleton

theorem stripPrefix_piece {name : OsStr} (hname : parsePiece name = some (.normal name))
    (hsep : sep ∉ name) (hp : sep ∉ p) :
    stripPrefix (name ++ sep :: p) (name ++ [sep]) = some (if isSkipped p then [] else p) := by
  have hpieces : pieces name = [name] := List.splitOn_eq_singleton hsep
  have hstart : ∀ {q : OsStr}, sep ∉ q → start (name ++ sep :: q) = none := by
    intro q hq
    rcases parsePiece_cases name with ⟨hnone, _⟩ | ⟨hparent, _⟩ | ⟨_, hnil, hdot, _⟩
    · rw [hname] at hnone
      cases hnone
    · rw [hname] at hparent
      cases hparent
    · have hhead : ¬ (name ++ sep :: q).head? = some sep := by
        rw [List.head?_append_of_ne_nil _ hnil]
        exact fun h => hsep (List.mem_of_mem_head? h)
      rw [start, if_neg hhead, pieces_append name hq, hpieces]
      exact if_neg fun h => hdot (Option.some.inj h)
  have hbase : components (name ++ [sep]) = [.normal name] := by
    rw [components, hstart List.not_mem_nil, pieces_append name List.not_mem_nil, hpieces,
      filterMap_concat, List.filterMap_cons_some hname]
    rfl
  unfold stripPrefix
  rw [hstart hp, hbase, pieces_append name hp, hpieces]
  dsimp only [List.cons_append, List.nil_append, stripPieces]
  rw [hname]
  dsimp only
  rw [if_pos rfl, Option.map_some, trimPieces]
  cases hskip : isSkipped p with
  | true =>
    rw [List.dropWhile_cons_of_pos hskip]
    rfl
  | false =>
    have hnot : ¬ isSkipped p = true := by rw [hskip]; exact Bool.false_ne_true
    rw [List.dropWhile_cons_of_neg hnot, rdropWhile_cons, hskip]
    exact congrArg some (joinPieces_singleton p)

theorem normalise_of_components {tail : List Component}
    (h : components p = components base ++ tail) :
    normalise p = tail.foldl push (normalise base) := by
  rw [normalise, h, List.foldl_append, normalise]

end

theorem push_parentDir_ne (stack : List Component) (name : OsStr) :
    push stack .parentDir ≠ stack ++ [.normal name] := by
  rw [push]
  split
  · intro h
    have hlen := congrArg List.length h
    rw [List.length_dropLast, List.length_append, List.length_singleton] at hlen
    omega
  · exact fun h => absurd (List.self_eq_append_right.mp h) (List.cons_ne_nil _ _)
  · intro h
    cases List.append_cancel_left h

end UnixPath
end Lib
