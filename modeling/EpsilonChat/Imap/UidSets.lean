import EpsilonChat.Imap.Fetch
import EpsilonChat.Lib.SequenceSet

/-!
# UID sets: what is asked of the server

The UIDs of a command are sent as a sequence set.  Two functions build them:

* `build_sequence_sets`: for FETCH: merges consecutive UIDs into ranges, then cuts the list of
  ranges where the text has grown past 990 bytes (`buildSequenceSets`);
* `UidGrouper`: for MOVE, COPY and STORE: an iterator over the rows of the `imap` table, which
  builds ranges and texts in one pass and starts a new group at 1000 bytes or where the target
  changes (`UidGrouper.next`).

`ofRanges` is what both build, a list of UIDs and its text, and `ofRanges_denotes` says that the
text means the list.

* **`build_sequence_sets_exact`**: the FETCH sets denote the UIDs, in order, within 1012 bytes;
* **`uid_grouper_exact`**: a group denotes the UIDs of its rows and no other.

UIDs are `u32`; additions wrap, as in a release build.
-/

namespace EpsilonChat.Imap

open Lib Lib.SequenceSet

def u32Max : ℕ := 2 ^ 32 - 1

structure UidRange where
  start : ℕ
  stop : ℕ
  deriving DecidableEq, Repr

namespace UidRange

def toString (r : UidRange) : String :=
  if r.start = r.stop then ToString.toString r.start
  else ToString.toString r.start ++ ":" ++ ToString.toString r.stop

/-- `start..=end` -/
def uids (r : UidRange) : List ℕ := List.range' r.start (r.stop + 1 - r.start)

def Ok (r : UidRange) : Prop := r.start ≤ r.stop ∧ r.stop < 2 ^ 32

end UidRange

/-! ## `build_sequence_sets` -/

/-- the body of the first loop -/
def mergeUid (ranges : List UidRange) (current : ℕ) : List UidRange :=
  match ranges.getLast? with
  | some last =>
    if u32Add last.stop 1 = current then ranges.dropLast ++ [{ last with stop := current }]
    else ranges ++ [⟨current, current⟩]
  | none => ranges ++ [⟨current, current⟩]

def uidRanges (uids : List ℕ) : List UidRange := uids.foldl mergeUid []

/-- `push(',')` behind what is there already, then `push_str` -/
def pushItem (set item : String) : String := if set = "" then item else set ++ "," ++ item

structure Sets where
  result : List (List ℕ × String) := []
  lastUids : List ℕ := []
  lastStr : String := ""

/-- the body of the second loop -/
def Sets.pushRange (s : Sets) (range : UidRange) : Sets :=
  let lastUids := s.lastUids ++ range.uids
  let lastStr := pushItem s.lastStr range.toString
  if lastStr.utf8ByteSize > 990 then { result := s.result ++ [(lastUids, lastStr)] }
  else { s with lastUids, lastStr }

def buildSequenceSets (uids : List ℕ) : List (List ℕ × String) :=
  let s := (uidRanges uids).foldl Sets.pushRange {}
  (s.result ++ [(s.lastUids, s.lastStr)]).filter fun set => set.2 ≠ ""

example : buildSequenceSets [3, 4, 8, 9, 10, 11, 39, 50, 2] =
    [([3, 4, 8, 9, 10, 11, 39, 50, 2], "3:4,8:11,39,50,2")] := by decide

/-! ## `UidGrouper` -/

/-- what `move_delete_messages` reads of a row of the `imap` table -/
structure PendingRow where
  rowid : ℤ
  uid : ℕ
  target : String
  deriving DecidableEq, Repr

namespace UidGrouper

structure Group where
  folder : String
  rowidSet : List ℤ
  uidSet : String
  deriving DecidableEq, Repr

/-- the inner loop: `next_if` while the range goes on; gives `end_uid`, the consumed row ids and
the rows that are left -/
def extendRange (folder : String) (endUid : ℕ) :
    List PendingRow → ℕ × List ℤ × List PendingRow
  | [] => (endUid, [], [])
  | row :: rows =>
    if row.target = folder ∧ (row.uid = u32Add endUid 1 ∨ row.uid = endUid) then
      let (endUid, rowids, rest) := extendRange folder row.uid rows
      (endUid, row.rowid :: rowids, rest)
    else (endUid, [], row :: rows)

theorem length_extendRange_le (folder : String) (endUid : ℕ) (rows : List PendingRow) :
    (extendRange folder endUid rows).2.2.length ≤ rows.length := by
  induction rows generalizing endUid with
  | nil => exact Nat.le_refl _
  | cons row rows ih =>
    rw [extendRange]
    split
    · exact (ih row.uid).trans (Nat.le_succ _)
    · exact Nat.le_refl _

def fillGroup (folder uidSet : String) (rowidSet : List ℤ) (rows : List PendingRow) :
    Group × List PendingRow :=
  if uidSet.utf8ByteSize < 1000 then
    match rows with
    | [] => (⟨folder, rowidSet, uidSet⟩, [])
    | row :: rows =>
      if row.target = folder then
        let range := extendRange folder row.uid rows
        fillGroup folder (pushItem uidSet (UidRange.toString ⟨row.uid, range.1⟩))
          (rowidSet ++ row.rowid :: range.2.1) range.2.2
      else (⟨folder, rowidSet, uidSet⟩, row :: rows)
  else (⟨folder, rowidSet, uidSet⟩, rows)
termination_by rows.length
decreasing_by exact Nat.lt_succ_of_le (length_extendRange_le ..)

def next (rows : List PendingRow) : Option (Group × List PendingRow) :=
  rows.head?.map fun row => fillGroup row.target "" [] rows

theorem length_fillGroup_le (folder uidSet : String) (rowidSet : List ℤ) (rows : List PendingRow) :
    (fillGroup folder uidSet rowidSet rows).2.length ≤ rows.length := by
  fun_induction fillGroup folder uidSet rowidSet rows with
  | case1 => exact Nat.le_refl _
  | case2 uidSet rowidSet hsize row rows htarget range ih =>
    exact ih.trans ((length_extendRange_le ..).trans (Nat.le_succ _))
  | case3 => exact Nat.le_refl _
  | case4 => exact Nat.le_refl _

theorem length_next_lt {rows rest : List PendingRow} {g : Group} (h : next rows = some (g, rest)) :
    rest.length < rows.length := by
  rcases rows with _ | ⟨row, rows⟩
  · cases h
  · have hfill : fillGroup row.target "" [] (row :: rows) = (g, rest) := Option.some.inj h
    rw [fillGroup, if_pos (by decide), if_pos rfl] at hfill
    have hrest := congrArg (fun p => p.2.length) hfill
    rw [← show _ = rest.length from hrest]
    exact Nat.lt_succ_of_le ((length_fillGroup_le ..).trans (length_extendRange_le ..))

def groups (rows : List PendingRow) : List Group :=
  match _h : next rows with
  | none => []
  | some (g, rest) => g :: groups rest
termination_by rows.length
decreasing_by exact length_next_lt _h

/-- the group stands for these rows: their ids, their target, their UIDs -/
structure Group.Exact (g : Group) (rows : List PendingRow) : Prop where
  rowids : g.rowidSet = rows.map PendingRow.rowid
  targets : ∀ row ∈ rows, row.target = g.folder
  uids : ∃ uids, denotes g.uidSet.toList = some uids ∧
    ∀ uid, uid ∈ uids ↔ uid ∈ rows.map PendingRow.uid

end UidGrouper

/-! ## the text of a list of ranges -/

def ofRanges (ranges : List UidRange) : List ℕ × String :=
  (ranges.flatMap UidRange.uids, String.intercalate "," (ranges.map UidRange.toString))

theorem toList_toString (n : ℕ) : (ToString.toString n).toList = Nat.toDigits 10 n := by
  rw [Nat.toString_eq_ofList_toDigits, String.toList_ofList]

theorem toString_ne_empty (n : ℕ) : ToString.toString n ≠ "" := by
  intro h
  have hlist := congrArg String.toList h
  rw [toList_toString] at hlist
  exact Nat.toDigits_ne_nil hlist

namespace UidRange

theorem toList_toString (r : UidRange) :
    r.toString.toList = if r.start = r.stop then Nat.toDigits 10 r.start
      else Nat.toDigits 10 r.start ++ ':' :: Nat.toDigits 10 r.stop := by
  rw [toString]
  split
  · exact Imap.toList_toString r.start
  · rw [String.toList_append, String.toList_append, Imap.toList_toString, Imap.toList_toString,
      List.append_assoc]
    rfl

theorem mem_toString {r : UidRange} {c : Char} (h : c ∈ r.toString.toList) :
    c.isDigit = true ∨ c = ':' := by
  rw [toList_toString] at h
  split at h
  · exact .inl (isDigit_of_mem_toDigits h)
  · rcases List.mem_append.mp h with h | h
    · exact .inl (isDigit_of_mem_toDigits h)
    · rcases List.mem_cons.mp h with h | h
      · exact .inr h
      · exact .inl (isDigit_of_mem_toDigits h)

theorem comma_not_mem_toString (r : UidRange) : ',' ∉ r.toString.toList := by
  intro h
  rcases mem_toString h with h | h <;> exact absurd h (by decide)

theorem toString_ne_empty (r : UidRange) : r.toString ≠ "" := by
  rw [toString]
  split
  · exact Imap.toString_ne_empty r.start
  · intro h
    rw [String.append_eq_empty_iff, String.append_eq_empty_iff] at h
    exact Imap.toString_ne_empty r.stop h.2

theorem uids_eq_span {r : UidRange} (h : r.Ok) : r.uids = span r.start r.stop :=
  (span_of_le h.1).symm

theorem item_toString {r : UidRange} (h : r.Ok) : item r.toString.toList = some r.uids := by
  have hstart : r.start < 2 ^ 32 := h.1.trans_lt h.2
  rw [toList_toString, uids_eq_span h]
  split
  · next heq => rw [item_number hstart, ← heq, span_self]
  · exact item_range hstart h.2

end UidRange

theorem utf8ByteSize_toString_le {n : ℕ} (h : n < 2 ^ 32) :
    (ToString.toString n).utf8ByteSize ≤ 10 := by
  have hascii : ∀ cs : List Char, (∀ c ∈ cs, c.isDigit = true) → String.utf8Len cs = cs.length := by
    intro cs
    induction cs with
    | nil => exact fun _ => rfl
    | cons c cs ih =>
      intro hcs
      have hone : c.utf8Size = 1 := by
        have hc := hcs c List.mem_cons_self
        rw [Char.utf8Size_eq_one_iff]
        rw [Char.isDigit, Bool.and_eq_true, decide_eq_true_iff, decide_eq_true_iff] at hc
        exact UInt32.le_trans hc.2 (by decide)
      rw [String.utf8Len_cons, ih fun c' hc' => hcs c' (List.mem_cons_of_mem _ hc'), hone,
        List.length_cons]
  have hdigits : n < 10 ^ 10 := h.trans (by decide)
  rw [Nat.toString_eq_ofList_toDigits, String.utf8ByteSize_ofList,
    hascii _ fun c => isDigit_of_mem_toDigits]
  exact (Nat.length_toDigits_le_iff (by decide) (by decide)).mpr hdigits

theorem UidRange.utf8ByteSize_toString_le {r : UidRange} (h : r.Ok) :
    r.toString.utf8ByteSize ≤ 21 := by
  have hstart := Imap.utf8ByteSize_toString_le (h.1.trans_lt h.2)
  have hstop := Imap.utf8ByteSize_toString_le h.2
  have hcolon : (":" : String).utf8ByteSize = 1 := by decide
  rw [UidRange.toString]
  split
  · omega
  · rw [String.utf8ByteSize_append, String.utf8ByteSize_append]
    omega

section
variable {ranges : List UidRange}

theorem ofRanges_eq_empty_iff : (ofRanges ranges).2 = "" ↔ ranges = [] := by
  constructor
  · intro h
    rcases ranges with _ | ⟨r, ranges⟩
    · rfl
    · rw [ofRanges, List.map_cons] at h
      have hlist := congrArg String.toList h
      rw [String.toList_intercalate, List.map_cons, Split.intercalate_cons] at hlist
      have hr := (List.append_eq_nil_iff.mp hlist).1
      exact absurd (String.toList_eq_nil_iff.mp hr) r.toString_ne_empty
  · rintro rfl
    rfl

theorem ofRanges_concat (ranges : List UidRange) (r : UidRange) :
    ofRanges (ranges ++ [r]) =
      ((ofRanges ranges).1 ++ r.uids, pushItem (ofRanges ranges).2 r.toString) := by
  have huids : (ranges ++ [r]).flatMap UidRange.uids = ranges.flatMap UidRange.uids ++ r.uids := by
    rw [List.flatMap_append, List.flatMap_singleton]
  have htext : String.intercalate "," ((ranges ++ [r]).map UidRange.toString) =
      pushItem (ofRanges ranges).2 r.toString := by
    rw [pushItem]
    split
    · next h =>
      rw [ofRanges_eq_empty_iff.mp h]
      rfl
    · next h =>
      have hne : ranges.map UidRange.toString ≠ [] :=
        fun hnil => h (ofRanges_eq_empty_iff.mpr (List.map_eq_nil_iff.mp hnil))
      rw [List.map_append, List.map_singleton,
        String.intercalate_append_of_ne_nil hne (List.cons_ne_nil _ _), String.intercalate_singleton]
      rfl
  rw [ofRanges, huids, htext]
  rfl

theorem toList_ofRanges (ranges : List UidRange) :
    (ofRanges ranges).2.toList = [','].intercalate (ranges.map fun r => r.toString.toList) := by
  rw [ofRanges, String.toList_intercalate, List.map_map]
  rfl

theorem ofRanges_denotes (hne : ranges ≠ []) (hok : ∀ r ∈ ranges, r.Ok) :
    denotes (ofRanges ranges).2.toList = some (ofRanges ranges).1 := by
  rw [toList_ofRanges]
  exact denotes_intercalate hne (fun r _ => r.comma_not_mem_toString)
    fun r hr => UidRange.item_toString (hok r hr)

theorem head_ofRanges (ranges : List UidRange) : (ofRanges ranges).2.toList.head? ≠ some ',' := by
  rw [toList_ofRanges]
  rcases ranges with _ | ⟨r, ranges⟩
  · exact nofun
  · rw [List.map_cons, Split.intercalate_cons,
      List.head?_append_of_ne_nil _ (mt String.toList_eq_nil_iff.mp r.toString_ne_empty)]
    intro h
    exact r.comma_not_mem_toString (List.mem_of_head? h)

theorem getLast_ofRanges (ranges : List UidRange) :
    (ofRanges ranges).2.toList.getLast? ≠ some ',' := by
  rw [toList_ofRanges]
  rcases List.eq_nil_or_concat ranges with rfl | ⟨ranges, r, rfl⟩
  · exact nofun
  · have hr : r.toString.toList ≠ [] := mt String.toList_eq_nil_iff.mp r.toString_ne_empty
    have hlast : ∀ init, (init ++ r.toString.toList).getLast? ≠ some ',' := by
      intro init h
      rw [List.getLast?_append_of_ne_nil _ hr] at h
      exact r.comma_not_mem_toString (List.mem_of_getLast? h)
    rw [List.concat_eq_append, List.map_append, List.map_singleton]
    rcases eq_or_ne (ranges.map fun r => r.toString.toList) [] with h | h
    · rw [h, List.nil_append, List.intercalate_singleton]
      exact hlast []
    · rw [Split.intercalate_concat h]
      exact hlast _

end

/-! ## merging -/

section
variable {uid : ℕ} {ranges : List UidRange} {done : List ℕ}

theorem u32Add_one (h : uid < u32Max) : u32Add uid 1 = uid + 1 :=
  Nat.mod_eq_of_lt (Nat.succ_lt_of_lt_pred h)

structure Merged (ranges : List UidRange) (done : List ℕ) : Prop where
  ok : ∀ r ∈ ranges, r.Ok
  lt : ∀ r ∈ ranges, r.stop < u32Max
  uids : ranges.flatMap UidRange.uids = done

theorem singleRange_ok (h : uid < u32Max) : UidRange.Ok ⟨uid, uid⟩ :=
  ⟨Nat.le_refl uid, h.trans (by decide)⟩

theorem Merged.push (h : Merged ranges done) (hlt : uid < u32Max) :
    Merged (ranges ++ [⟨uid, uid⟩]) (done ++ [uid]) where
  ok := List.forall_mem_append.mpr ⟨h.ok, List.forall_mem_singleton.mpr (singleRange_ok hlt)⟩
  lt := List.forall_mem_append.mpr ⟨h.lt, List.forall_mem_singleton.mpr hlt⟩
  uids := by
    rw [List.flatMap_append, h.uids, List.flatMap_singleton,
      UidRange.uids_eq_span (singleRange_ok hlt), span_self]

theorem Merged.extend {last : UidRange} (h : Merged (ranges ++ [last]) done)
    (hlt : last.stop + 1 < u32Max) :
    Merged (ranges ++ [{ last with stop := last.stop + 1 }]) (done ++ [last.stop + 1]) := by
  obtain ⟨hok, hlast⟩ := List.forall_mem_append.mp h.ok
  have hle : last.start ≤ last.stop := (List.forall_mem_singleton.mp hlast).1
  have hlonger : UidRange.Ok { last with stop := last.stop + 1 } :=
    ⟨hle.trans (Nat.le_succ _), hlt.trans (by decide)⟩
  have huids := h.uids
  rw [List.flatMap_append, List.flatMap_singleton,
    UidRange.uids_eq_span (List.forall_mem_singleton.mp hlast)] at huids
  constructor
  case ok => exact List.forall_mem_append.mpr ⟨hok, List.forall_mem_singleton.mpr hlonger⟩
  case lt =>
    have hlt' := (List.forall_mem_append.mp h.lt).1
    exact List.forall_mem_append.mpr ⟨hlt', List.forall_mem_singleton.mpr hlt⟩
  case uids =>
    rw [List.flatMap_append, List.flatMap_singleton, UidRange.uids_eq_span hlonger,
      span_succ hle, ← List.append_assoc, huids]

theorem Merged.mergeUid (h : Merged ranges done) (hlt : uid < u32Max) :
    Merged (mergeUid ranges uid) (done ++ [uid]) := by
  rcases List.eq_nil_or_concat ranges with rfl | ⟨ranges, last, rfl⟩
  · exact h.push hlt
  · rw [List.concat_eq_append] at h ⊢
    have hstop := h.lt last (List.mem_append_right _ (List.mem_singleton_self _))
    rw [Imap.mergeUid, List.getLast?_concat]
    show Merged (if u32Add last.stop 1 = uid then _ else _) _
    rw [u32Add_one hstop, List.dropLast_concat]
    split
    · next heq =>
      subst heq
      exact h.extend hlt
    · exact h.push hlt

end

theorem uidRanges_merged (uids : List ℕ) (h : ∀ uid ∈ uids, uid < u32Max) :
    Merged (uidRanges uids) uids := by
  have hrun : ∀ ranges done, Merged ranges done →
      Merged (uids.foldl Imap.mergeUid ranges) (done ++ uids) := by
    induction uids with
    | nil =>
      intro ranges done hm
      rwa [List.append_nil]
    | cons uid uids ih =>
      intro ranges done hm
      have hnext := hm.mergeUid (h uid List.mem_cons_self)
      have hrest := ih (fun u hu => h u (List.mem_cons_of_mem _ hu)) _ _ hnext
      rwa [List.append_assoc, List.singleton_append] at hrest
  exact hrun [] [] ⟨nofun, nofun, rfl⟩

/-! ## cutting -/

def SetOk (set : List ℕ × String) : Prop :=
  ∃ ranges, ranges ≠ [] ∧ (∀ r ∈ ranges, r.Ok) ∧ set = ofRanges ranges ∧
    set.2.utf8ByteSize ≤ 1012

structure Sets.Cut (s : Sets) (done : List UidRange) : Prop where
  uids : s.result.flatMap Prod.fst ++ s.lastUids = done.flatMap UidRange.uids
  result : ∀ set ∈ s.result, SetOk set
  last : ∃ ranges, (∀ r ∈ ranges, r.Ok) ∧ (s.lastUids, s.lastStr) = ofRanges ranges
  short : s.lastStr.utf8ByteSize ≤ 990

theorem utf8ByteSize_pushItem_le (set item : String) :
    (pushItem set item).utf8ByteSize ≤ set.utf8ByteSize + 1 + item.utf8ByteSize := by
  have hcomma : ("," : String).utf8ByteSize = 1 := by decide
  rw [pushItem]
  split
  · omega
  · rw [String.utf8ByteSize_append, String.utf8ByteSize_append, hcomma]

theorem Sets.Cut.pushRange {s : Sets} {done : List UidRange} (h : s.Cut done) {range : UidRange}
    (hok : range.Ok) : (s.pushRange range).Cut (done ++ [range]) := by
  obtain ⟨ranges, hranges, hlast⟩ := h.last
  have hnext : (s.lastUids ++ range.uids, pushItem s.lastStr range.toString) =
      ofRanges (ranges ++ [range]) := by
    rw [ofRanges_concat, ← hlast]
  have hall : ∀ r ∈ ranges ++ [range], r.Ok :=
    List.forall_mem_append.mpr ⟨hranges, List.forall_mem_singleton.mpr hok⟩
  have hsize : (pushItem s.lastStr range.toString).utf8ByteSize ≤ 1012 := by
    have hpush := utf8ByteSize_pushItem_le s.lastStr range.toString
    have hitem := UidRange.utf8ByteSize_toString_le hok
    have hshort := h.short
    omega
  have huids : s.result.flatMap Prod.fst ++ (s.lastUids ++ range.uids) =
      (done ++ [range]).flatMap UidRange.uids := by
    rw [List.flatMap_append, List.flatMap_singleton, ← h.uids, List.append_assoc]
  rw [Sets.pushRange]
  split
  case isTrue hlong =>
    refine ⟨?_, ?_, ⟨[], nofun, rfl⟩, Nat.zero_le 990⟩
    · rw [List.flatMap_append, List.flatMap_singleton, List.append_nil, huids]
    · intro set hset
      rcases List.mem_append.mp hset with hset | hset
      · exact h.result set hset
      · rw [List.mem_singleton.mp hset]
        exact ⟨ranges ++ [range], by simp, hall, hnext, hsize⟩
  case isFalse hshort =>
    exact ⟨huids, h.result, ⟨ranges ++ [range], hall, hnext⟩, Nat.le_of_not_lt hshort⟩

theorem cut_foldl (ranges : List UidRange) (hok : ∀ r ∈ ranges, r.Ok) (s : Sets)
    (done : List UidRange) (h : s.Cut done) :
    (ranges.foldl Sets.pushRange s).Cut (done ++ ranges) := by
  induction ranges generalizing s done with
  | nil => rwa [List.append_nil]
  | cons r ranges ih =>
    have hnext := h.pushRange (hok r List.mem_cons_self)
    have hrest := ih (fun r' hr' => hok r' (List.mem_cons_of_mem _ hr')) _ _ hnext
    rwa [List.append_assoc, List.singleton_append] at hrest

theorem buildSequenceSets_ok (uids : List ℕ) (h : ∀ uid ∈ uids, uid < u32Max) :
    (buildSequenceSets uids).flatMap Prod.fst = uids ∧ ∀ set ∈ buildSequenceSets uids, SetOk set := by
  have hmerged := uidRanges_merged uids h
  have hcut := cut_foldl (uidRanges uids) hmerged.ok {} []
    ⟨rfl, nofun, ⟨[], nofun, rfl⟩, by decide⟩
  rw [List.nil_append] at hcut
  obtain ⟨ranges, hranges, hlast⟩ := hcut.last
  have hflat := hcut.uids.trans hmerged.uids
  rw [buildSequenceSets]
  generalize (uidRanges uids).foldl Sets.pushRange {} = s at hcut hlast hflat ⊢
  -- the sets that were flushed are not empty; the last one is dropped if it is
  have hkeep : s.result.filter (fun set => set.2 ≠ "") = s.result := by
    rw [List.filter_eq_self]
    intro set hset
    obtain ⟨rs, hrs, -, rfl, -⟩ := hcut.result set hset
    exact decide_eq_true (mt ofRanges_eq_empty_iff.mp hrs)
  rw [List.filter_append, hkeep]
  by_cases hempty : s.lastStr = ""
  · have hnil : ranges = [] := ofRanges_eq_empty_iff.mp (hlast ▸ hempty)
    have huids : s.lastUids = [] := by
      rw [hnil] at hlast
      exact congrArg Prod.fst hlast
    rw [List.filter_cons_of_neg (by simpa using hempty), List.filter_nil, List.append_nil]
    rw [huids, List.append_nil] at hflat
    exact ⟨hflat, hcut.result⟩
  · rw [List.filter_cons_of_pos (by simpa using hempty), List.filter_nil]
    refine ⟨?_, ?_⟩
    · rw [List.flatMap_append, List.flatMap_singleton, hflat]
    · intro set hset
      rcases List.mem_append.mp hset with hset | hset
      · exact hcut.result set hset
      · rw [List.mem_singleton.mp hset]
        have hne : ranges ≠ [] := fun hnil =>
          hempty ((congrArg Prod.snd hlast).trans (ofRanges_eq_empty_iff.mpr hnil))
        exact ⟨ranges, hne, hranges, hlast, hcut.short.trans (by decide)⟩

/-- **FETCH sets**: cut in order, each text denotes its UIDs and stays within 1012 bytes -/
theorem build_sequence_sets_exact (uids : List ℕ) (h : ∀ uid ∈ uids, uid < u32Max) :
    (buildSequenceSets uids).flatMap Prod.fst = uids ∧
      ∀ set ∈ buildSequenceSets uids,
        denotes set.2.toList = some set.1 ∧ set.2 ≠ "" ∧ set.2.toList.head? ≠ some ',' ∧
          set.2.toList.getLast? ≠ some ',' ∧ set.2.utf8ByteSize ≤ 1012 := by
  obtain ⟨hflat, hsets⟩ := buildSequenceSets_ok uids h
  refine ⟨hflat, ?_⟩
  intro set hset
  obtain ⟨ranges, hne, hok, rfl, hsize⟩ := hsets set hset
  exact ⟨ofRanges_denotes hne hok, mt ofRanges_eq_empty_iff.mp hne, head_ofRanges ranges,
    getLast_ofRanges ranges, hsize⟩

/-- unsorted UIDs with a duplicate -/
theorem build_sequence_sets_exact_unsorted :
    (∀ uid ∈ [8, 9, 9, 10, 2], uid < u32Max) ∧
      (buildSequenceSets [8, 9, 9, 10, 2]).flatMap Prod.fst = [8, 9, 9, 10, 2] :=
  ⟨by decide, (build_sequence_sets_exact [8, 9, 9, 10, 2] (by decide)).1⟩

/-! ## groups -/

namespace UidGrouper

theorem extendRange_spec (folder : String) (endUid : ℕ) (rows : List PendingRow)
    (hend : endUid < u32Max) (h : ∀ row ∈ rows, row.uid < u32Max) :
    ∃ part, rows = part ++ (extendRange folder endUid rows).2.2 ∧
      (extendRange folder endUid rows).2.1 = part.map PendingRow.rowid ∧
      (∀ row ∈ part, row.target = folder) ∧
      endUid ≤ (extendRange folder endUid rows).1 ∧ (extendRange folder endUid rows).1 < u32Max ∧
      ∀ uid, uid ∈ span endUid (extendRange folder endUid rows).1 ↔
        uid = endUid ∨ uid ∈ part.map PendingRow.uid := by
  induction rows generalizing endUid with
  | nil => exact ⟨[], rfl, rfl, nofun, Nat.le_refl _, hend, by simp [extendRange, span_self]⟩
  | cons row rows ih =>
    rw [extendRange]
    split
    case isTrue hnext =>
      obtain ⟨htarget, hcont⟩ := hnext
      have hrow : row.uid < u32Max := h row List.mem_cons_self
      obtain ⟨part, hrows, hids, htargets, hle, hlt, hspan⟩ :=
        ih row.uid hrow fun r hr => h r (List.mem_cons_of_mem _ hr)
      rw [u32Add_one hend] at hcont
      refine ⟨row :: part, congrArg _ hrows, congrArg _ hids,
        List.forall_mem_cons.mpr ⟨htarget, htargets⟩, ?_, hlt, ?_⟩
      · show endUid ≤ (extendRange folder row.uid rows).1
        omega
      · intro uid
        show uid ∈ span endUid (extendRange folder row.uid rows).1 ↔ _
        have hrest := hspan uid
        rw [mem_span hle] at hrest
        rw [mem_span (by omega), List.map_cons, List.mem_cons, ← hrest]
        omega
    case isFalse =>
      exact ⟨[], rfl, rfl, nofun, Nat.le_refl _, hend, by simp [span_self]⟩

structure Filled (g : Group) (consumed : List PendingRow) : Prop where
  rowids : g.rowidSet = consumed.map PendingRow.rowid
  targets : ∀ row ∈ consumed, row.target = g.folder
  ranges : ∃ ranges, (∀ r ∈ ranges, r.Ok) ∧ g.uidSet = (ofRanges ranges).2 ∧
    ∀ uid, uid ∈ (ofRanges ranges).1 ↔ uid ∈ consumed.map PendingRow.uid

theorem Filled.push {folder uidSet : String} {rowidSet : List ℤ} {consumed : List PendingRow}
    (h : Filled ⟨folder, rowidSet, uidSet⟩ consumed) (part : List PendingRow) {range : UidRange}
    (hok : range.Ok)
    (htargets : ∀ row ∈ part, row.target = folder)
    (huids : ∀ uid, uid ∈ span range.start range.stop ↔ uid ∈ part.map PendingRow.uid) :
    Filled ⟨folder, rowidSet ++ part.map PendingRow.rowid, pushItem uidSet range.toString⟩
      (consumed ++ part) := by
  obtain ⟨ranges, hranges, hset, hmem⟩ := h.ranges
  constructor
  case rowids => rw [List.map_append, ← h.rowids]
  case targets => exact List.forall_mem_append.mpr ⟨h.targets, htargets⟩
  case ranges =>
    refine ⟨ranges ++ [range], List.forall_mem_append.mpr
      ⟨hranges, List.forall_mem_singleton.mpr hok⟩, ?_, ?_⟩
    · rw [ofRanges_concat, ← hset]
    · intro uid
      rw [ofRanges_concat, List.mem_append, UidRange.uids_eq_span hok, hmem, huids,
        List.map_append, List.mem_append]

theorem fillGroup_spec (folder uidSet : String) (rowidSet : List ℤ) (rows : List PendingRow)
    (h : ∀ row ∈ rows, row.uid < u32Max) (consumed : List PendingRow)
    (hfilled : Filled ⟨folder, rowidSet, uidSet⟩ consumed) :
    ∃ part, rows = part ++ (fillGroup folder uidSet rowidSet rows).2 ∧
      Filled (fillGroup folder uidSet rowidSet rows).1 (consumed ++ part) := by
  fun_induction fillGroup folder uidSet rowidSet rows generalizing consumed with
  | case1 => exact ⟨[], rfl, by rwa [List.append_nil]⟩
  | case2 uidSet rowidSet hsize row rows htarget range ih =>
    have hrow : row.uid < u32Max := h row List.mem_cons_self
    obtain ⟨part, hrows, hids, htargets, hle, hlt, hspan⟩ :=
      extendRange_spec folder row.uid rows hrow fun r hr => h r (List.mem_cons_of_mem _ hr)
    have hok : UidRange.Ok ⟨row.uid, range.1⟩ := ⟨hle, hlt.trans (by decide)⟩
    have huids : ∀ uid, uid ∈ span row.uid range.1 ↔ uid ∈ (row :: part).map PendingRow.uid := by
      intro uid
      rw [List.map_cons, List.mem_cons]
      exact hspan uid
    have hpush := hfilled.push (row :: part) hok (List.forall_mem_cons.mpr ⟨htarget, htargets⟩) huids
    rw [List.map_cons, ← hids] at hpush
    have hrest : ∀ r ∈ range.2.2, r.uid < u32Max := by
      intro r hr
      have hmem : r ∈ rows := hrows ▸ List.mem_append_right part hr
      exact h r (List.mem_cons_of_mem _ hmem)
    obtain ⟨part', hrows', hfilled'⟩ := ih hrest (consumed ++ row :: part) hpush
    refine ⟨row :: part ++ part', ?_, ?_⟩
    · rw [List.append_assoc, ← hrows', List.cons_append, ← hrows]
    · rwa [List.append_assoc] at hfilled'
  | case3 => exact ⟨[], rfl, by rwa [List.append_nil]⟩
  | case4 => exact ⟨[], rfl, by rwa [List.append_nil]⟩

theorem next_spec {rows rest : List PendingRow} {g : Group} (hnext : next rows = some (g, rest))
    (h : ∀ row ∈ rows, row.uid < u32Max) : ∃ part, rows = part ++ rest ∧ g.Exact part := by
  have hshorter := length_next_lt hnext
  rcases rows with _ | ⟨row, rows⟩
  · cases hnext
  · have hfill : fillGroup row.target "" [] (row :: rows) = (g, rest) := Option.some.inj hnext
    obtain ⟨part, hrows, hfilled⟩ := fillGroup_spec row.target "" [] (row :: rows) h []
      ⟨rfl, nofun, ⟨[], nofun, rfl, by simp [ofRanges]⟩⟩
    rw [hfill] at hrows hfilled
    obtain ⟨ranges, hok, hset, hmem⟩ := hfilled.ranges
    refine ⟨part, hrows, hfilled.rowids, hfilled.targets, (ofRanges ranges).1, ?_, hmem⟩
    -- some row was taken, so there is a range
    have hne : ranges ≠ [] := by
      rintro rfl
      rcases part with _ | ⟨first, part⟩
      · rw [hrows] at hshorter
        exact absurd hshorter (Nat.lt_irrefl _)
      · exact absurd ((hmem first.uid).mpr List.mem_cons_self) List.not_mem_nil
    rw [hset, ofRanges_denotes hne hok]

theorem groups_spec (rows : List PendingRow) (h : ∀ row ∈ rows, row.uid < u32Max) :
    ∃ parts : List (List PendingRow), parts.flatten = rows ∧
      List.Forall₂ Group.Exact (groups rows) parts := by
  fun_induction groups rows with
  | case1 rows hnone =>
    rcases rows with _ | ⟨row, rows⟩
    · exact ⟨[], rfl, .nil⟩
    · cases hnone
  | case2 rows g rest hnext ih =>
    obtain ⟨part, hrows, hexact⟩ := next_spec hnext h
    have hrest : ∀ row ∈ rest, row.uid < u32Max := fun row hrow =>
      h row (hrows ▸ List.mem_append_right part hrow)
    obtain ⟨parts, hflat, hparts⟩ := ih hrest
    refine ⟨part :: parts, ?_, .cons hexact hparts⟩
    rw [List.flatten_cons, hflat, ← hrows]

theorem flatMap_rowidSet {gs : List Group} {parts : List (List PendingRow)}
    (h : List.Forall₂ Group.Exact gs parts) :
    gs.flatMap Group.rowidSet = parts.flatten.map PendingRow.rowid := by
  induction h with
  | nil => rfl
  | cons hexact _ ih =>
    rw [List.flatMap_cons, hexact.rowids, ih, List.flatten_cons, List.map_append]

/-- **groups**: the rows fall into consecutive parts, and each group stands for its part.  (The
order of the rows does not matter for this, only for the number of groups.) -/
theorem uid_grouper_exact (rows : List PendingRow) (h : ∀ row ∈ rows, row.uid < u32Max) :
    (groups rows).flatMap Group.rowidSet = rows.map PendingRow.rowid ∧
      ∃ parts : List (List PendingRow), parts.flatten = rows ∧
        List.Forall₂ Group.Exact (groups rows) parts := by
  obtain ⟨parts, hflat, hparts⟩ := groups_spec rows h
  refine ⟨?_, parts, hflat, hparts⟩
  rw [flatMap_rowidSet hparts, hflat]

/-- rows to be deleted and rows to be moved -/
theorem uid_grouper_exact_targets :
    (groups [⟨5, 2, ""⟩, ⟨3, 2, ""⟩, ⟨4, 3, ""⟩, ⟨6, 3, "Archive"⟩]).flatMap Group.rowidSet =
      [5, 3, 4, 6] :=
  (uid_grouper_exact [⟨5, 2, ""⟩, ⟨3, 2, ""⟩, ⟨4, 3, ""⟩, ⟨6, 3, "Archive"⟩] (by decide)).1

end UidGrouper

end EpsilonChat.Imap
