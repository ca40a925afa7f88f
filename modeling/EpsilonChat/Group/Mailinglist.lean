import EpsilonChat.Group.Settings
import EpsilonChat.Lib.Join

/-!
# The name of a mailing list

`apply_mailinglist_changes` loads the chat, renames it if the message is not older than the name it
has, and then looks at the address for posts.  The time of the name is stored in the `param` column
by reading, changing and writing it; the address is stored by writing back the copy of `param` that
was loaded FIRST.  A message that does both takes its own time back.

* `State`: the chat, and the list that the contacts belong to;
* `renamed`: the chat after the name part;
* `applyMailinglistChanges`: the whole function;
* `Renames`, `WritesBack`: what a message does to a chat;
* `keepsTime_iff`: when the stored time does not decrease within a call;
* `Heard`: the newest message comes to give its name;
* **`newest_name_iff`**: after all messages the name is that of the newest, and the time never
  decreased, IFF the newest message was heard and no message that renames the chat with a later time
  writes back.
-/

namespace EpsilonChat.Mailinglist

open Lib
open Settings (ChatDb Chat loadFromDb)

/-! ## one message -/

structure ListMsg where
  /-- `compute_mailinglist_name` -/
  newName : String
  timestampSent : I64
  listPost : Option String

structure State where
  db : ChatDb
  /-- `Param::ListId` of the contacts, by address -/
  contactListId : String → Option String

section
variable (toLowercase : String → String) (listid : String)

def listPostAddr (m : ListMsg) : Option String := m.listPost.bind (Text.contactAddress toLowercase)

def renamed (db : ChatDb) (m : ListMsg) : ChatDb :=
  let chat := loadFromDb db
  if chat.name ≠ m.newName then
    let (db, update) := db.updateTimestamp .groupNameTimestamp m.timestampSent
    if update then { db with name := m.newName } else db
  else db

/-- the address part, with the copy of the chat that was loaded before the name part -/
def storeListPost (db : ChatDb) (chat : Chat) (listPost : String) : ChatDb :=
  match chat.param.get .listPost with
  | some oldListPost =>
    -- the list has more than one address, so it is made read-only
    if listPost ≠ oldListPost then
      db.updateParam { chat with param := chat.param.remove .listPost }
    else db
  | none => db.updateParam { chat with param := chat.param.set .listPost listPost }

def applyMailinglistChanges (s : State) (m : ListMsg) : State :=
  let chat := loadFromDb s.db
  if chat.typ ≠ .mailinglist then s
  else
    let db := renamed s.db m
    match listPostAddr toLowercase m with
    | none => { s with db := db }
    | some listPost =>
      { db := storeListPost db chat listPost
        contactListId := Function.update s.contactListId listPost (some listid) }

end

/-! ## the stored time -/

def time (db : ChatDb) : I64 := db.param.timestamp .groupNameTimestamp

def Renames (db : ChatDb) (m : ListMsg) : Prop := db.name ≠ m.newName ∧ time db ≤ m.timestampSent

/-- the copy of `param` is written back: the address is the first one, or another one -/
def WritesBack (toLowercase : String → String) (db : ChatDb) (m : ListMsg) : Prop :=
  ∃ listPost, listPostAddr toLowercase m = some listPost ∧ db.param.get .listPost ≠ some listPost

section
variable {toLowercase : String → String} {listid : String} {s : State} {db : ChatDb} {m : ListMsg}

theorem renamed_of_renames (h : Renames db m) : renamed db m =
    { db with
      param := db.param.setI64 .groupNameTimestamp m.timestampSent
      name := m.newName } := by
  unfold renamed
  dsimp only [loadFromDb]
  rw [if_pos h.1, Settings.updateTimestamp_of_le _ _ _ h.2]
  rfl

theorem renamed_of_not (h : ¬ Renames db m) : renamed db m = db := by
  unfold renamed
  dsimp only [loadFromDb]
  by_cases hname : db.name ≠ m.newName
  · have hlt : m.timestampSent < time db := not_le.mp fun hle => h ⟨hname, hle⟩
    rw [if_pos hname, Settings.updateTimestamp_of_lt _ _ _ hlt]
    rfl
  · rw [if_neg hname]

theorem time_renamed (h : Renames db m) : time (renamed db m) = m.timestampSent := by
  rw [renamed_of_renames h]
  exact Params.timestamp_setI64 _ _ _

theorem time_le_renamed (db : ChatDb) (m : ListMsg) : time db ≤ time (renamed db m) := by
  by_cases h : Renames db m
  · rw [time_renamed h]
    exact h.2
  · rw [renamed_of_not h]

theorem storeListPost_eq (db : ChatDb) (chat : Chat) (listPost : String) :
    storeListPost db chat listPost = db ∧ chat.param.get .listPost = some listPost ∨
      chat.param.get .listPost ≠ some listPost ∧ ∃ param : Params,
        storeListPost db chat listPost = { db with param := param } ∧
          param.timestamp .groupNameTimestamp = chat.param.timestamp .groupNameTimestamp := by
  unfold storeListPost
  rcases hold : chat.param.get .listPost with _ | old
  · refine .inr ⟨by simp, _, rfl, Params.timestamp_congr ?_⟩
    exact Params.get_set_of_ne _ _ (by decide)
  · by_cases hne : listPost ≠ old
    · refine .inr ⟨fun h => hne (Option.some.inj h).symm, chat.param.remove .listPost, ?_, ?_⟩
      · simp only [if_pos hne]
        rfl
      · exact Params.timestamp_congr (Params.get_remove_of_ne _ (by decide))
    · left
      dsimp only
      rw [if_neg hne]
      exact ⟨rfl, congrArg some (not_not.mp hne).symm⟩

variable (toLowercase listid)

/-- **what a message does**: the name part stands, and if the copy of `param` is written back, the
time is the one from before -/
theorem apply_cases (htyp : s.db.typ = .mailinglist) :
    ∃ param : Params, (applyMailinglistChanges toLowercase listid s m).db =
        { renamed s.db m with param := param } ∧
      (WritesBack toLowercase s.db m ∧ param.timestamp .groupNameTimestamp = time s.db ∨
        ¬ WritesBack toLowercase s.db m ∧ param = (renamed s.db m).param) := by
  have hmail : ¬ (loadFromDb s.db).typ ≠ .mailinglist := not_not.mpr htyp
  unfold applyMailinglistChanges WritesBack
  simp only [if_neg hmail]
  rcases hpost : listPostAddr toLowercase m with _ | listPost
  · refine ⟨_, rfl, .inr ⟨?_, rfl⟩⟩
    rintro ⟨listPost, h, -⟩
    cases h
  · rcases storeListPost_eq (renamed s.db m) (loadFromDb s.db) listPost with
      ⟨heq, hold⟩ | ⟨hold, param, heq, htime⟩
    · refine ⟨(renamed s.db m).param, heq, .inr ⟨?_, rfl⟩⟩
      rintro ⟨listPost', h, hne⟩
      cases h
      exact hne hold
    · exact ⟨param, heq, .inl ⟨⟨listPost, rfl, hold⟩, htime⟩⟩

/-- the time does not decrease, neither by the name part nor by the address part -/
def KeepsTime (s : State) (m : ListMsg) : Prop :=
  time s.db ≤ time (renamed s.db m) ∧
    time (renamed s.db m) ≤ time (applyMailinglistChanges toLowercase listid s m).db

/-- a message that renames the chat with a later time does not write back -/
def NoRevert (s : State) (m : ListMsg) : Prop :=
  ¬ (Renames s.db m ∧ time s.db < m.timestampSent ∧ WritesBack toLowercase s.db m)

theorem apply_typ (m : ListMsg) (htyp : s.db.typ = .mailinglist) :
    (applyMailinglistChanges toLowercase listid s m).db.typ = .mailinglist := by
  obtain ⟨param, heq, -⟩ := apply_cases toLowercase listid (m := m) htyp
  rw [heq]
  by_cases h : Renames s.db m
  · rw [renamed_of_renames h]
    exact htyp
  · rw [renamed_of_not h]
    exact htyp

/-- **the time decreases within a call** iff the message renames the chat with a later time and
writes back -/
theorem keepsTime_iff (htyp : s.db.typ = .mailinglist) :
    KeepsTime toLowercase listid s m ↔ NoRevert toLowercase s m := by
  obtain ⟨param, heq, hback⟩ := apply_cases toLowercase listid (m := m) htyp
  unfold KeepsTime NoRevert
  rw [and_iff_right (time_le_renamed s.db m), heq]
  rcases hback with ⟨hwrites, htime⟩ | ⟨hnot, rfl⟩
  · show time (renamed s.db m) ≤ param.timestamp .groupNameTimestamp ↔ _
    rw [htime]
    by_cases h : Renames s.db m
    · rw [time_renamed h, ← not_lt]
      exact not_congr ⟨fun hlt => ⟨h, hlt, hwrites⟩, fun hall => hall.2.1⟩
    · rw [renamed_of_not h]
      exact iff_of_true le_rfl fun hall => h hall.1
  · exact iff_of_true le_rfl fun hall => hnot hall.2.2

theorem apply_of_not_renames (htyp : s.db.typ = .mailinglist) (h : ¬ Renames s.db m) :
    (applyMailinglistChanges toLowercase listid s m).db.name = s.db.name ∧
      time (applyMailinglistChanges toLowercase listid s m).db = time s.db := by
  obtain ⟨param, heq, hback⟩ := apply_cases toLowercase listid (m := m) htyp
  rw [heq, renamed_of_not h]
  refine ⟨rfl, ?_⟩
  rcases hback with ⟨-, htime⟩ | ⟨-, rfl⟩
  · exact htime
  · rw [renamed_of_not h]

theorem apply_of_renames (htyp : s.db.typ = .mailinglist) (h : Renames s.db m)
    (hkeeps : NoRevert toLowercase s m) :
    (applyMailinglistChanges toLowercase listid s m).db.name = m.newName ∧
      time (applyMailinglistChanges toLowercase listid s m).db = m.timestampSent := by
  obtain ⟨param, heq, hback⟩ := apply_cases toLowercase listid (m := m) htyp
  rw [heq]
  refine ⟨by rw [renamed_of_renames h], ?_⟩
  rcases hback with ⟨hwrites, htime⟩ | ⟨-, rfl⟩
  · -- the time that is written back is the same
    refine htime.trans (le_antisymm h.2 ?_)
    exact not_lt.mp fun hlt => hkeeps ⟨h, hlt, hwrites⟩
  · exact time_renamed h

/-! ## whole runs -/

/-- messages of other names leave the chat with another name, if it had one or one of them is not
older than the name -/
theorem run_others {n : String} {t : I64} (l : List ListMsg) (htyp : s.db.typ = .mailinglist)
    (hok : RunOk (applyMailinglistChanges toLowercase listid) (NoRevert toLowercase) s l)
    (hl : ∀ m ∈ l, m.newName ≠ n ∧ m.timestampSent ≤ t) (htime : time s.db ≤ t)
    (hname : s.db.name ≠ n ∨ ∃ m ∈ l, time s.db ≤ m.timestampSent) :
    let s' := l.foldl (applyMailinglistChanges toLowercase listid) s
    s'.db.typ = .mailinglist ∧ s'.db.name ≠ n ∧ time s'.db ≤ t := by
  induction l generalizing s with
  | nil => exact ⟨htyp, hname.resolve_right (by simp), htime⟩
  | cons m l ih =>
    obtain ⟨hkeeps, hrest⟩ := hok
    obtain ⟨hm, hl'⟩ := List.forall_mem_cons.mp hl
    by_cases h : Renames s.db m
    · obtain ⟨hname', htime'⟩ := apply_of_renames toLowercase listid htyp h hkeeps
      refine ih (apply_typ toLowercase listid m htyp) hrest hl' ?_ (.inl ?_)
      · rw [htime']
        exact hm.2
      · rw [hname']
        exact hm.1
    · obtain ⟨hname', htime'⟩ := apply_of_not_renames toLowercase listid htyp h
      refine ih (apply_typ toLowercase listid m htyp) hrest hl' ?_ ?_
      · rw [htime']
        exact htime
      · rw [hname', htime']
        rcases hname with hne | ⟨m', hmem, hle⟩
        · exact .inl hne
        · rcases List.mem_cons.mp hmem with rfl | hmem
          · -- not older and yet no rename: the chat has its name
            refine .inl fun heq => h ⟨fun heq' => hm.1 (heq'.symm.trans heq), hle⟩
          · exact .inr ⟨m', hmem, hle⟩

theorem run_older (l : List ListMsg) (htyp : s.db.typ = .mailinglist)
    (hl : ∀ m ∈ l, m.timestampSent < time s.db) :
    let s' := l.foldl (applyMailinglistChanges toLowercase listid) s
    s'.db.typ = .mailinglist ∧ s'.db.name = s.db.name ∧ time s'.db = time s.db := by
  induction l generalizing s with
  | nil => exact ⟨htyp, rfl, rfl⟩
  | cons m l ih =>
    obtain ⟨hm, hl'⟩ := List.forall_mem_cons.mp hl
    have hnot : ¬ Renames s.db m := fun h => absurd hm (not_lt.mpr h.2)
    obtain ⟨hname, htime⟩ := apply_of_not_renames toLowercase listid htyp hnot
    obtain ⟨htyp', hname', htime'⟩ :=
      ih (apply_typ toLowercase listid m htyp) (by rw [htime]; exact hl')
    exact ⟨htyp', hname'.trans hname, htime'.trans htime⟩

theorem runOk_keepsTime_iff (l : List ListMsg) (htyp : s.db.typ = .mailinglist) :
    RunOk (applyMailinglistChanges toLowercase listid) (KeepsTime toLowercase listid) s l ↔
      RunOk (applyMailinglistChanges toLowercase listid) (NoRevert toLowercase) s l := by
  induction l generalizing s with
  | nil => exact Iff.rfl
  | cons m l ih =>
    exact and_congr (keepsTime_iff toLowercase listid htyp)
      (ih (apply_typ toLowercase listid m htyp))

/-- the newest message comes to give its name: its time is not older than the one stored.  If the
chat has that name already, the message stores no time; a later message may then rename the chat,
unless an earlier one did. -/
def Heard (s : State) (before : List ListMsg) (newest : ListMsg) (after : List ListMsg) : Prop :=
  if s.db.name = newest.newName then
    (∃ m ∈ after, time s.db ≤ m.timestampSent) → ∃ m ∈ before, time s.db ≤ m.timestampSent
  else time s.db ≤ newest.timestampSent

theorem run_newest {newest : ListMsg} {after : List ListMsg} (htyp : s.db.typ = .mailinglist)
    (hkeeps : NoRevert toLowercase s newest) (hname : s.db.name ≠ newest.newName)
    (htime : time s.db ≤ newest.timestampSent)
    (hafter : ∀ m ∈ after, m.timestampSent < newest.timestampSent) :
    ((newest :: after).foldl (applyMailinglistChanges toLowercase listid) s).db.name =
      newest.newName := by
  obtain ⟨hname', htime'⟩ := apply_of_renames toLowercase listid htyp ⟨hname, htime⟩ hkeeps
  obtain ⟨-, hstays, -⟩ := run_older toLowercase listid after
    (apply_typ toLowercase listid newest htyp) (by rw [htime']; exact hafter)
  exact hstays.trans hname'

/-- if the chat has the name of the newest message and nothing before renames it, the message stores
nothing: the name stays unless a later message renames the chat -/
theorem name_iff_of_same {before after : List ListMsg} {newest : ListMsg}
    (htyp : s.db.typ = .mailinglist)
    (hok : RunOk (applyMailinglistChanges toLowercase listid) (NoRevert toLowercase)
      (applyMailinglistChanges toLowercase listid
        (before.foldl (applyMailinglistChanges toLowercase listid) s) newest) after)
    (hname : s.db.name = newest.newName) (hbefore : ∀ m ∈ before, m.timestampSent < time s.db)
    (hafter : ∀ m ∈ after, m.newName ≠ newest.newName ∧ m.timestampSent ≤ newest.timestampSent) :
    ((before ++ newest :: after).foldl (applyMailinglistChanges toLowercase listid) s).db.name =
      newest.newName ↔ ¬ ∃ m ∈ after, time s.db ≤ m.timestampSent := by
  obtain ⟨htyp₁, hname₁, htime₁⟩ := run_older toLowercase listid before htyp hbefore
  obtain ⟨hname₂, htime₂⟩ := apply_of_not_renames toLowercase listid htyp₁
    (m := newest) fun h => h.1 (hname₁.trans hname)
  have htyp₂ := apply_typ toLowercase listid newest htyp₁
  have htime := htime₂.trans htime₁
  rw [List.foldl_append, List.foldl_cons]
  constructor
  · rintro hfinal ⟨m, hm, hle⟩
    refine absurd hfinal (run_others toLowercase listid after htyp₂ hok hafter ?_ ?_).2.1
    · rw [htime]
      exact hle.trans (hafter m hm).2
    · rw [htime]
      exact .inr ⟨m, hm, hle⟩
  · intro hnone
    have hold : ∀ m ∈ after, m.timestampSent < time _ := fun m hm => by
      rw [htime]
      exact not_le.mp fun hle => hnone ⟨m, hm, hle⟩
    obtain ⟨-, hname₃, -⟩ := run_older toLowercase listid after htyp₂ hold
    exact hname₃.trans (hname₂.trans (hname₁.trans hname))

theorem name_iff_heard {before after : List ListMsg} {newest : ListMsg}
    (htyp : s.db.typ = .mailinglist)
    (hok : RunOk (applyMailinglistChanges toLowercase listid) (NoRevert toLowercase) s
      (before ++ newest :: after))
    (hbefore : ∀ m ∈ before, m.newName ≠ newest.newName ∧
      m.timestampSent < newest.timestampSent)
    (hafter : ∀ m ∈ after, m.newName ≠ newest.newName ∧ m.timestampSent < newest.timestampSent) :
    ((before ++ newest :: after).foldl (applyMailinglistChanges toLowercase listid) s).db.name =
      newest.newName ↔ Heard s before newest after := by
  obtain ⟨hokBefore, hkeeps, hokAfter⟩ := (runOk_append s before (newest :: after)).mp hok
  have hbefore' : ∀ m ∈ before, m.newName ≠ newest.newName ∧
      m.timestampSent ≤ newest.timestampSent := fun m hm => (hbefore m hm).imp_right le_of_lt
  have hafter' : ∀ m ∈ after, m.newName ≠ newest.newName ∧
      m.timestampSent ≤ newest.timestampSent := fun m hm => (hafter m hm).imp_right le_of_lt
  -- if the chat has another name when the newest message comes, the message renames it
  have hrenamed (htime : time s.db ≤ newest.timestampSent)
      (hother : s.db.name ≠ newest.newName ∨ ∃ m ∈ before, time s.db ≤ m.timestampSent) :
      ((before ++ newest :: after).foldl (applyMailinglistChanges toLowercase listid) s).db.name =
        newest.newName := by
    obtain ⟨htyp', hname', htime'⟩ :=
      run_others toLowercase listid before htyp hokBefore hbefore' htime hother
    rw [List.foldl_append]
    exact run_newest toLowercase listid htyp' hkeeps hname' htime' fun m hm => (hafter m hm).2
  unfold Heard
  split_ifs with hname
  · by_cases hsome : ∃ m ∈ before, time s.db ≤ m.timestampSent
    · obtain ⟨m, hm, hle⟩ := hsome
      exact iff_of_true (hrenamed (hle.trans (hbefore' m hm).2) (.inr ⟨m, hm, hle⟩))
        fun _ => ⟨m, hm, hle⟩
    · rw [name_iff_of_same toLowercase listid htyp hokAfter hname
        (fun m hm => not_le.mp fun hle => hsome ⟨m, hm, hle⟩) hafter']
      exact ⟨fun hnone hlater => absurd hlater hnone, fun himp hlater => hsome (himp hlater)⟩
  · constructor
    · intro hfinal
      by_contra hlt
      have hold : ∀ m ∈ before ++ newest :: after, m.timestampSent < time s.db := by
        intro m hm
        refine lt_of_le_of_lt ?_ (not_le.mp hlt)
        rcases List.mem_append.mp hm with hm | hm
        · exact (hbefore' m hm).2
        · rcases List.mem_cons.mp hm with rfl | hm
          · exact le_rfl
          · exact (hafter' m hm).2
      exact hname ((run_older toLowercase listid _ htyp hold).2.1.symm.trans hfinal)
    · exact fun htime => hrenamed htime (.inl hname)

end

/-- **the name follows the newest message**, and its time never decreases, **iff** the newest
message comes to give its name, and no message that renames the chat with a later time writes
back -/
theorem newest_name_iff (toLowercase : String → String) (listid : String) (s : State)
    (before : List ListMsg) (newest : ListMsg) (after : List ListMsg)
    (htyp : s.db.typ = .mailinglist)
    (hdistinct : ((before ++ newest :: after).map ListMsg.timestampSent).Nodup)
    (hnewest : ∀ m ∈ before ++ after, m.timestampSent ≤ newest.timestampSent)
    (hname : ∀ m ∈ before ++ after, m.newName ≠ newest.newName) :
    ((before ++ newest :: after).foldl (applyMailinglistChanges toLowercase listid) s).db.name =
          newest.newName ∧
        RunOk (applyMailinglistChanges toLowercase listid) (KeepsTime toLowercase listid) s
          (before ++ newest :: after) ↔
      Heard s before newest after ∧
        RunOk (applyMailinglistChanges toLowercase listid) (NoRevert toLowercase) s
          (before ++ newest :: after) := by
  have hne : ∀ m ∈ before ++ after, m.timestampSent ≠ newest.timestampSent := by
    intro m hm heq
    rw [List.map_append, List.map_cons, List.nodup_middle] at hdistinct
    refine (List.nodup_cons.mp hdistinct).1 ?_
    rw [← List.map_append, ← heq]
    exact List.mem_map_of_mem hm
  have hother : ∀ m ∈ before ++ after, m.newName ≠ newest.newName ∧
      m.timestampSent < newest.timestampSent :=
    fun m hm => ⟨hname m hm, lt_of_le_of_ne (hnewest m hm) (hne m hm)⟩
  rw [runOk_keepsTime_iff toLowercase listid _ htyp]
  exact and_congr_left fun hok => name_iff_heard toLowercase listid htyp hok
    (fun m hm => hother m (List.mem_append_left _ hm))
    fun m hm => hother m (List.mem_append_right _ hm)

/-! ## a time taken back -/

def freshList : State where
  db := { typ := .mailinglist, name := "L", param := Params.new, description := none }
  contactListId _ := none

def newAt230 (listPost : Option String) : ListMsg where
  newName := "New"
  timestampSent := ⟨230, by decide⟩
  listPost := listPost

def oldAt130 : ListMsg where
  newName := "Old"
  timestampSent := ⟨130, by decide⟩
  listPost := none

theorem newest_name_iff_noListPost :
    ([newAt230 none, oldAt130].foldl (applyMailinglistChanges id "l") freshList).db.name = "New" ∧
        RunOk (applyMailinglistChanges id "l") (KeepsTime id "l") freshList
          [newAt230 none, oldAt130] ↔
      Heard freshList [] (newAt230 none) [oldAt130] ∧
        RunOk (applyMailinglistChanges id "l") (NoRevert id) freshList [newAt230 none, oldAt130] :=
  newest_name_iff id "l" freshList [] (newAt230 none) [oldAt130] rfl (by decide) (by decide)
    (by decide)

/-- the newest message comes with the first address: its time is taken back, and the older message
that arrives later renames the list -/
theorem newest_name_lost :
    time ([newAt230 (some "l@x.org")].foldl (applyMailinglistChanges id "l") freshList).db =
        I64.zero ∧
      ([newAt230 (some "l@x.org"), oldAt130].foldl (applyMailinglistChanges id "l")
        freshList).db.name = "Old" := by
  decide +kernel

end EpsilonChat.Mailinglist
