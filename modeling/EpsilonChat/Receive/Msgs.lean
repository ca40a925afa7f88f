import EpsilonChat.Mime.Message
import EpsilonChat.Lib.IdTable

/-!
# The table `msgs`

A message with several parts has one row per part, all under its Message-ID.  A row is never
dropped here: a deleted message moves to the trash chat and keeps its Message-IDs, and a TOMBSTONE
is a trashed row for a Message-ID without a message.

* `Msgs`: the rows by their id;
* `Pick`: which of several rows a query without `GROUP BY` takes its columns from; SQLite leaves
  that open, so nothing may depend on it;
* `rfc724MidExistsEx`: the look-up by Message-ID;
* `HasMid`: what the look-up can see;
* `OwnUpdate c`: what a message of `c` may do to a row that is there: the row is loaded, and its
  sender is `c`;
* `Keeps c`: the frame of everything done in the name of the contact `c`: rows of other contacts
  stay as they are, up to the Message-ID of their pre-message.
-/

namespace EpsilonChat.Receive
open Lib

def chatIdTrash : ChatId := 3

inductive DownloadState where
  | done | available | failure | undecipherable | inProgress
  deriving DecidableEq, Repr

/-- the defaults are those of the table -/
structure MsgRow where
  rfc724Mid : String := ""
  preRfc724Mid : String := ""
  chatId : ChatId := 0
  fromId : ContactId := ContactId.undefined
  typ : Viewtype := .unknown
  txt : String := ""
  param : Params := Params.new
  hidden : Bool := false
  downloadState : DownloadState := .done

abbrev Msgs := IdTable MsgRow

/-- the row that a query takes its bare columns from, if there is any -/
structure Pick where
  choose : List MsgId → Option MsgId
  choose_mem : ∀ {l id}, choose l = some id → id ∈ l
  choose_nil : ∀ {l}, choose l = none → l = []

def Pick.first : Pick where
  choose := List.head?
  choose_mem := List.mem_of_head?
  choose_nil := List.head?_eq_none_iff.mp

/-! ## statements -/

def trimMid (mid : String) : String := Text.trimEndMatches (Text.trimStartMatches mid '<') '>'

theorem trimMid_trimMid (mid : String) : trimMid (trimMid mid) = trimMid mid := by
  -- what is cut off at the end does not bring up a new first character
  have hstart : ((mid.toList.dropWhile (· == '<')).rdropWhile (· == '>')).dropWhile (· == '<')
      = (mid.toList.dropWhile (· == '<')).rdropWhile (· == '>') := by
    have hpre := List.rdropWhile_prefix (· == '>') (l := mid.toList.dropWhile (· == '<'))
    rw [List.dropWhile_eq_self_iff]
    intro hlen hc
    refine List.dropWhile_get_zero_not (· == '<') mid.toList (hlen.trans_le hpre.length_le) ?_
    rw [← hc]
    exact congrArg (· == '<') (hpre.getElem hlen).symm
  unfold trimMid Text.trimEndMatches Text.trimStartMatches
  simp only [String.toList_ofList]
  rw [hstart, List.rdropWhile_idempotent]

/-- `rfc724_mid=?1 OR pre_rfc724_mid=?1` -/
def MsgRow.hasMid (mid : String) (r : MsgRow) : Bool := r.rfc724Mid == mid || r.preRfc724Mid == mid

section
variable (pick : Pick)

/-- `MIN(expr)` is true iff `expr` holds for all rows, and the id is that of a row where `expr`
has this value -/
def rfc724MidExistsEx (t : Msgs) (rfc724Mid : String) (expr : MsgRow → Bool) :
    Option (MsgId × Bool) :=
  let mid := trimMid rfc724Mid
  if mid = "" then none
  else
    let rows := t.ids (MsgRow.hasMid mid)
    let exprRes := rows.all fun id => (t.row id).any expr
    (pick.choose (rows.filter fun id => (t.row id).any expr == exprRes)).map (·, exprRes)

def rfc724MidExists (t : Msgs) (rfc724Mid : String) : Option MsgId :=
  (rfc724MidExistsEx pick t rfc724Mid fun _ => true).map Prod.fst

def msgIsDownloadedFor (t : Msgs) (rfc724Mid : String) : Bool :=
  (rfc724MidExists pick t rfc724Mid).isSome

end

/-- `Message::load_from_db_optional`; a trashed message does not load -/
def loadFromDbOptional (t : Msgs) (id : MsgId) : Option MsgRow :=
  (t.row id).filter fun r => r.chatId ≠ chatIdTrash

def tombstone (rfc724Mid : String) : MsgRow := { rfc724Mid := rfc724Mid, chatId := chatIdTrash }

def insertTombstone (t : Msgs) (rfc724Mid : String) : Msgs := t.insert (tombstone rfc724Mid)

def MsgRow.trashed (r : MsgRow) : MsgRow :=
  { rfc724Mid := r.rfc724Mid, preRfc724Mid := r.preRfc724Mid, chatId := chatIdTrash }

def trash (t : Msgs) (id : MsgId) : Msgs := t.update id MsgRow.trashed

def MsgRow.getShowpadlock (r : MsgRow) : Bool :=
  (r.param.getInt .guaranteeE2ee).getD 0 ≠ 0 || r.fromId == ContactId.device

def saveTextEditToDb (t : Msgs) (id : MsgId) (originalMsg : MsgRow) (newText : String) : Msgs :=
  t.update id fun r => { r with txt := newText, param := originalMsg.param.set .isEdited "1" }

/-! ## what a look-up sees -/

abbrev HasMid (t : Msgs) (mid : String) : Prop := t.Any (MsgRow.hasMid mid)

def MsgRow.isUnder (rfc724Mid : String) (r : MsgRow) : Bool :=
  trimMid rfc724Mid ≠ "" && r.hasMid (trimMid rfc724Mid)

theorem any_isUnder {t : Msgs} {rfc724Mid : String} :
    t.Any (MsgRow.isUnder rfc724Mid) ↔ trimMid rfc724Mid ≠ "" ∧ HasMid t (trimMid rfc724Mid) := by
  by_cases e : trimMid rfc724Mid = ""
  · simp [IdTable.Any, MsgRow.isUnder, e]
  · simp [IdTable.Any, MsgRow.isUnder, HasMid, e]

section
variable (pick : Pick)
variable {t : Msgs} {mid : String}

theorem rfc724MidExistsEx_isSome (expr : MsgRow → Bool) :
    (rfc724MidExistsEx pick t mid expr).isSome ↔ t.Any (MsgRow.isUnder mid) := by
  rw [any_isUnder]
  unfold rfc724MidExistsEx
  by_cases e : trimMid mid = ""
  · simp [e]
  dsimp only
  rw [if_neg e, Option.isSome_map]
  refine ⟨fun h => ⟨e, ?_⟩, ?_⟩
  · obtain ⟨id, hid⟩ := Option.isSome_iff_exists.mp h
    obtain ⟨r, hr, hmid⟩ := IdTable.mem_ids.mp ((List.mem_filter.mp (pick.choose_mem hid)).1)
    exact ⟨id, r, hr, hmid⟩
  · rintro ⟨-, id, r, hr, hmid⟩
    by_contra hnone
    have hid : id ∈ t.ids (MsgRow.hasMid (trimMid mid)) := IdTable.mem_ids.mpr ⟨r, hr, hmid⟩
    have hnil := pick.choose_nil (Option.not_isSome_iff_eq_none.mp hnone)
    rw [List.filter_eq_nil_iff] at hnil
    -- with no row where `expr` has the value of `MIN(expr)`, that value is true, and false
    by_cases hall : (t.ids (MsgRow.hasMid (trimMid mid))).all (fun id => (t.row id).any expr) = true
    · refine hnil id hid ?_
      rw [hall, List.all_eq_true.mp hall id hid]
      rfl
    · refine hall (List.all_eq_true.mpr fun id' hid' => ?_)
      have hne := hnil id' hid'
      rw [Bool.eq_false_iff.mpr hall, beq_false, Bool.not_eq_true, Bool.not_eq_false'] at hne
      exact hne

theorem rfc724MidExists_isSome :
    (rfc724MidExists pick t mid).isSome ↔ t.Any (MsgRow.isUnder mid) := by
  rw [rfc724MidExists, Option.isSome_map, rfc724MidExistsEx_isSome]

theorem rfc724MidExistsEx_snd {expr : MsgRow → Bool} {id : MsgId} {exprRes : Bool}
    (h : rfc724MidExistsEx pick t mid expr = some (id, exprRes)) :
    exprRes = false ↔ t.Any fun r => r.isUnder mid && !expr r := by
  unfold rfc724MidExistsEx at h
  dsimp only at h
  split at h
  · cases h
  · next e =>
    obtain ⟨id', -, he⟩ := Option.map_eq_some_iff.mp h
    cases he
    rw [List.all_eq_false]
    constructor
    · rintro ⟨id, hid, hexpr⟩
      obtain ⟨r, hr, hmid⟩ := IdTable.mem_ids.mp hid
      rw [hr] at hexpr
      refine ⟨id, r, hr, ?_⟩
      simpa [MsgRow.isUnder, e, hmid] using hexpr
    · rintro ⟨id, r, hr, hboth⟩
      obtain ⟨hunder, hexpr⟩ := Bool.and_eq_true_iff.mp hboth
      refine ⟨id, IdTable.mem_ids.mpr ⟨r, hr, (Bool.and_eq_true_iff.mp hunder).2⟩, ?_⟩
      rw [hr]
      simpa using hexpr

theorem rfc724MidExistsEx_any {expr : MsgRow → Bool} :
    ((rfc724MidExistsEx pick t mid expr).any fun found => !found.2) = true ↔
      t.Any fun r => r.isUnder mid && !expr r := by
  cases h : rfc724MidExistsEx pick t mid expr with
  | none =>
    have hnone : ¬ t.Any (MsgRow.isUnder mid) := by
      rw [← rfc724MidExistsEx_isSome pick expr, h]
      exact Bool.false_ne_true
    refine iff_of_false Bool.false_ne_true ?_
    rintro ⟨id, r, hr, hboth⟩
    exact hnone ⟨id, r, hr, (Bool.and_eq_true_iff.mp hboth).1⟩
  | some found =>
    rw [← rfc724MidExistsEx_snd pick h, Option.any_some, Bool.not_eq_true']

end

/-! ## rows of other contacts -/

def MsgRow.content (r : MsgRow) : MsgRow := { r with preRfc724Mid := "" }

theorem content_inj {r r' : MsgRow} (h : r'.content = r.content) :
    r'.chatId = r.chatId ∧ r'.fromId = r.fromId :=
  ⟨show r'.content.chatId = r.content.chatId by rw [h],
    show r'.content.fromId = r.content.fromId by rw [h]⟩

def Kept (c : ContactId) (r r' : MsgRow) : Prop :=
  (r.chatId = chatIdTrash → r'.chatId = chatIdTrash) ∧
    (r.chatId ≠ chatIdTrash → r.fromId ≠ c → r'.content = r.content)

def Keeps (c : ContactId) (t t' : Msgs) : Prop :=
  ∀ id r, t.row id = some r → ∃ r', t'.row id = some r' ∧ Kept c r r'

section
variable {c : ContactId}

theorem Kept.refl (r : MsgRow) : Kept c r r := ⟨fun h => h, fun _ _ => rfl⟩

theorem Kept.trans {r r' r'' : MsgRow} (h : Kept c r r') (h' : Kept c r' r'') : Kept c r r'' := by
  refine ⟨fun hr => h'.1 (h.1 hr), fun hr hc => ?_⟩
  have hcontent := h.2 hr hc
  obtain ⟨hchat, hfrom⟩ := content_inj hcontent
  exact (h'.2 (hchat ▸ hr) (hfrom ▸ hc)).trans hcontent

theorem Keeps.refl (t : Msgs) : Keeps c t t := fun _ r hr => ⟨r, hr, Kept.refl r⟩

theorem Keeps.trans {t t' t'' : Msgs} (h : Keeps c t t') (h' : Keeps c t' t'') :
    Keeps c t t'' := by
  intro id r hr
  obtain ⟨r', hr', hkept⟩ := h id r hr
  obtain ⟨r'', hr'', hkept'⟩ := h' id r' hr'
  exact ⟨r'', hr'', hkept.trans hkept'⟩

theorem keeps_insert (t : Msgs) (r : MsgRow) : Keeps c t (t.insert r) := by
  intro id r' hr'
  exact ⟨r', IdTable.insert_row_of_some r hr', Kept.refl r'⟩

theorem keeps_update {t : Msgs} {id : MsgId} {f : MsgRow → MsgRow}
    (hf : ∀ r, t.row id = some r → Kept c r (f r)) : Keeps c t (t.update id f) := by
  intro id' r hr
  by_cases e : id' = id
  · subst e
    exact ⟨f r, IdTable.update_row_self f hr, hf r hr⟩
  · exact ⟨r, (IdTable.update_row_of_ne f e).trans hr, Kept.refl r⟩

/-- at most one row is changed: it loads, its sender is `c`, and it keeps its Message-IDs -/
def OwnUpdate (c : ContactId) (t t' : Msgs) : Prop :=
  t' = t ∨ ∃ id msg f, loadFromDbOptional t id = some msg ∧ msg.fromId = c ∧
    (∀ mid r, MsgRow.hasMid mid (f r) = r.hasMid mid) ∧ t' = t.update id f

theorem OwnUpdate.keeps {t t' : Msgs} (h : OwnUpdate c t t') : Keeps c t t' := by
  rcases h with rfl | ⟨id, msg, f, hload, hfrom, -, rfl⟩
  · exact Keeps.refl t'
  · obtain ⟨hrow, hchat⟩ := Option.filter_eq_some_iff.mp hload
    refine keeps_update fun r hr => ?_
    cases hr.symm.trans hrow
    exact ⟨fun h => absurd h (of_decide_eq_true hchat), fun _ h => absurd hfrom h⟩

theorem OwnUpdate.hasMid {t t' : Msgs} (h : OwnUpdate c t t') {mid : String} :
    HasMid t' mid ↔ HasMid t mid := by
  rcases h with rfl | ⟨id, msg, f, -, -, hf, rfl⟩
  · exact Iff.rfl
  · exact IdTable.any_update (hf mid)

end

/-! ## the rows of one message -/

def insertRows (t : Msgs) : List MsgRow → Msgs × List MsgId
  | [] => (t, [])
  | r :: rows => ((insertRows (t.insert r) rows).1, (t.seq + 1) :: (insertRows (t.insert r) rows).2)

/-- what these rows show: those that are not in the trash -/
def stored (t : Msgs) (ids : List MsgId) : List MsgRow :=
  ((ids.filterMap t.row).filter fun r => r.chatId ≠ chatIdTrash).map MsgRow.content

theorem keeps_insertRows {c : ContactId} (t : Msgs) (rows : List MsgRow) :
    Keeps c t (insertRows t rows).1 := by
  induction rows generalizing t with
  | nil => exact Keeps.refl t
  | cons r rows ih => exact (keeps_insert t r).trans (ih (t.insert r))

theorem any_insertRows {t : Msgs} {rows : List MsgRow} {p : MsgRow → Bool} :
    (insertRows t rows).1.Any p ↔ t.Any p ∨ ∃ r ∈ rows, p r := by
  induction rows generalizing t with
  | nil => simp [insertRows]
  | cons r rows ih =>
    show (insertRows (t.insert r) rows).1.Any p ↔ _
    rw [ih, IdTable.any_insert, or_assoc]
    simp only [List.mem_cons, exists_eq_or_imp]

theorem insertRows_row {t : Msgs} {rows : List MsgRow} {id : MsgId} (h : id ≤ t.seq) :
    (insertRows t rows).1.row id = t.row id := by
  induction rows generalizing t with
  | nil => rfl
  | cons r rows ih =>
    show (insertRows (t.insert r) rows).1.row id = _
    rw [ih (Nat.le_succ_of_le h)]
    exact IdTable.insert_row_of_ne r (Nat.ne_of_lt (Nat.lt_succ_of_le h))

theorem filterMap_insertRows (t : Msgs) (rows : List MsgRow) :
    (insertRows t rows).2.filterMap (insertRows t rows).1.row = rows := by
  induction rows generalizing t with
  | nil => rfl
  | cons r rows ih =>
    have hle : t.seq + 1 ≤ (t.insert r).seq := Nat.le_refl _
    have hrow : (insertRows (t.insert r) rows).1.row (t.seq + 1) = some r := by
      rw [insertRows_row hle, IdTable.insert_row_new]
    show List.filterMap (insertRows (t.insert r) rows).1.row
      ((t.seq + 1) :: (insertRows (t.insert r) rows).2) = r :: rows
    rw [List.filterMap_cons_some hrow, ih]

theorem stored_insertRows (t : Msgs) (rows : List MsgRow) :
    stored (insertRows t rows).1 (insertRows t rows).2
      = (rows.filter fun r => r.chatId ≠ chatIdTrash).map MsgRow.content := by
  rw [stored, filterMap_insertRows]

theorem stored_of_keeps {c : ContactId} {t t' : Msgs} (h : Keeps c t t') {ids : List MsgId}
    (hids : ∀ id ∈ ids, ∃ r, t.row id = some r ∧ (r.chatId ≠ chatIdTrash → r.fromId ≠ c)) :
    stored t' ids = stored t ids := by
  induction ids with
  | nil => rfl
  | cons id ids ih =>
    have htail := ih fun id' hid' => hids id' (List.mem_cons_of_mem _ hid')
    obtain ⟨r, hr, hfrom⟩ := hids id List.mem_cons_self
    obtain ⟨r', hr', htrash, hcontent⟩ := h id r hr
    unfold stored at htail ⊢
    rw [List.filterMap_cons_some hr, List.filterMap_cons_some hr', List.filter_cons,
      List.filter_cons]
    by_cases e : r.chatId = chatIdTrash
    · rw [if_neg (by simp [htrash e]), if_neg (by simp [e]), htail]
    · have hc := hcontent e (hfrom e)
      have hchat := (content_inj hc).1
      rw [if_pos (by simpa [hchat] using e), if_pos (by simpa using e), List.map_cons,
        List.map_cons, htail, hc]

end EpsilonChat.Receive
