import EpsilonChat.Lib.Join
import EpsilonChat.Transport.Sync

/-!
# When do the devices of a user agree on their transports?

For each address a device knows a newest EVENT: an addition with its login parameters, or a removal.
Events are ordered by time, at equal times the removal above the addition (`Event`).

* `syncTransports_eq`: a message is a list of statements (`statements`);
* `StmtOk`: when a statement is harmless: the address is not the primary one, and an addition does
  not overwrite a different row of the same time or newer, and does not bring back what was removed
  at its time or later.  The code checks NEITHER of the last two;
* `apply_view`: a harmless statement takes the join of the event known and its own;
* `transports_converge`: **runs of harmless statements over the same messages end with the same
  transports, and a removal at the time of the newest addition or later wins.**
-/

namespace EpsilonChat.Transport
open Lib

/-! ## messages as statements -/

inductive Stmt where
  | save (td : TransportData)
  | remove (rd : RemovedTransportData)

section
variable (toLowercase : String → String)

def Stmt.addr : Stmt → String
  | save td => td.addr toLowercase
  | remove rd => rd.addr

def Stmt.apply (s : Device) : Stmt → Device
  | save td => s.save toLowercase td
  | remove rd => s.configuredAddr.elim s fun configuredAddr => s.remove configuredAddr rd

def TransportData.folderOk (td : TransportData) : Bool := td.configured.imapFolder ≠ some ""

/-- the statements a message executes: an empty folder name ends it -/
def statements (m : SyncMessage) : List Stmt :=
  (m.transports.takeWhile TransportData.folderOk).map .save ++
    if m.transports.all TransportData.folderOk then m.removedTransports.map .remove else []

theorem saveTransports_eq (l : List TransportData) (s : Device) (modified : Bool) :
    (saveTransports toLowercase s modified l).1
        = ((l.takeWhile TransportData.folderOk).map Stmt.save).foldl (Stmt.apply toLowercase) s ∧
      ((saveTransports toLowercase s modified l).2.isOk = l.all TransportData.folderOk) := by
  induction l generalizing s modified with
  | nil => exact ⟨rfl, rfl⟩
  | cons td l ih =>
    unfold saveTransports saveTransport
    by_cases h : td.configured.imapFolder = some ""
    · have hok : td.folderOk = false := by simp [TransportData.folderOk, h]
      simp only [h, if_true, List.takeWhile_cons, List.all_cons, hok]
      exact ⟨rfl, rfl⟩
    · have hok : td.folderOk = true := by simp [TransportData.folderOk, h]
      simp only [h, if_false, List.takeWhile_cons, List.all_cons, hok, if_true, Bool.true_and]
      exact ih _ _

theorem removeTransports_eq (l : List RemovedTransportData) (configuredAddr : String) (s : Device)
    (modified : Bool) (h : s.configuredAddr = some configuredAddr) :
    (removeTransports configuredAddr s modified l).1
      = (l.map Stmt.remove).foldl (Stmt.apply toLowercase) s := by
  induction l generalizing s modified with
  | nil => rfl
  | cons rd l ih =>
    have hstep : Stmt.apply toLowercase s (.remove rd) = s.remove configuredAddr rd := by
      show s.configuredAddr.elim s _ = _
      rw [h, Option.elim_some]
    have hkept : (s.remove configuredAddr rd).configuredAddr = some configuredAddr := by
      unfold Device.remove
      split
      · exact h
      · exact h
    rw [List.map_cons, List.foldl_cons, hstep]
    exact ih _ _ hkept

theorem remove_of_not_configured (l : List RemovedTransportData) (s : Device)
    (h : s.configuredAddr = none) : (l.map Stmt.remove).foldl (Stmt.apply toLowercase) s = s := by
  induction l with
  | nil => rfl
  | cons rd l ih =>
    have hstep : Stmt.apply toLowercase s (.remove rd) = s := by
      show s.configuredAddr.elim s _ = _
      rw [h, Option.elim_none]
    rw [List.map_cons, List.foldl_cons, hstep, ih]

theorem syncTransports_eq (s : Device) (m : SyncMessage) :
    (syncTransports toLowercase s m).1 = (statements m).foldl (Stmt.apply toLowercase) s := by
  obtain ⟨hs, hok⟩ := saveTransports_eq toLowercase m.transports s false
  unfold syncTransports statements
  rw [List.foldl_append, ← hs]
  generalize saveTransports toLowercase s false m.transports = r at hok ⊢
  obtain ⟨s', res⟩ := r
  cases res with
  | error e =>
    have hall : m.transports.all TransportData.folderOk = false := hok.symm
    rw [hall]
    rfl
  | ok modified =>
    have hall : m.transports.all TransportData.folderOk = true := hok.symm
    rw [hall, if_pos rfl]
    dsimp only
    cases hc : s'.configuredAddr with
    | none => exact (remove_of_not_configured toLowercase _ s' hc).symm
    | some configuredAddr => exact removeTransports_eq toLowercase _ configuredAddr s' modified hc

def run (s : Device) (l : List SyncMessage) : Device :=
  l.foldl (fun s m => (syncTransports toLowercase s m).1) s

theorem run_eq (s : Device) (l : List SyncMessage) :
    run toLowercase s l = (l.flatMap statements).foldl (Stmt.apply toLowercase) s := by
  rw [List.foldl_flatMap]
  unfold run
  simp only [syncTransports_eq]

end

/-! ## events -/

/-- time, removal or not, entered and configured parameters, published or not -/
abbrev Event := ℤ ×ₗ Bool ×ₗ String ×ₗ String ×ₗ Bool

def Row.event (r : Row) : Event :=
  toLex (r.addTimestamp, toLex (false, toLex (r.enteredParam, toLex (r.configuredParam,
    r.isPublished))))

def removal (ts : ℤ) : Event := toLex (ts, toLex (true, toLex ("", toLex ("", false))))

def Row.SameContent (r r' : Row) : Prop :=
  r.enteredParam = r'.enteredParam ∧ r.configuredParam = r'.configuredParam ∧
    r.isPublished = r'.isPublished

theorem event_le_of_lt {r r' : Row} (h : r.addTimestamp < r'.addTimestamp) :
    r.event ≤ r'.event := Prod.Lex.toLex_le_toLex.mpr (.inl h)

theorem event_le_of_sameContent {r r' : Row} (hc : r.SameContent r')
    (h : r.addTimestamp ≤ r'.addTimestamp) : r.event ≤ r'.event := by
  obtain ⟨h1, h2, h3⟩ := hc
  rcases lt_or_eq_of_le h with hlt | heq
  · exact event_le_of_lt hlt
  · refine Prod.Lex.toLex_le_toLex.mpr (.inr ⟨heq, ?_⟩)
    dsimp only
    rw [h1, h2, h3]

theorem event_le_removal_iff {r : Row} {ts : ℤ} : r.event ≤ removal ts ↔ r.addTimestamp ≤ ts := by
  refine ⟨?_, ?_⟩
  · intro h
    rcases Prod.Lex.toLex_le_toLex.mp h with hlt | ⟨heq, _⟩
    · exact hlt.le
    · exact heq.le
  · intro h
    rcases lt_or_eq_of_le h with hlt | heq
    · exact Prod.Lex.toLex_le_toLex.mpr (.inl hlt)
    · refine Prod.Lex.toLex_le_toLex.mpr (.inr ⟨heq, ?_⟩)
      exact Prod.Lex.toLex_le_toLex.mpr (.inl Bool.false_lt_true)

theorem removal_le_event_iff {r : Row} {ts : ℤ} : removal ts ≤ r.event ↔ ts < r.addTimestamp := by
  refine ⟨?_, fun h => Prod.Lex.toLex_le_toLex.mpr (.inl h)⟩
  intro h
  rcases Prod.Lex.toLex_le_toLex.mp h with hlt | ⟨_, hle⟩
  · exact hlt
  · rcases Prod.Lex.toLex_le_toLex.mp hle with hb | ⟨hb, _⟩
    · exact absurd hb (lt_asymm Bool.false_lt_true)
    · exact absurd hb Bool.noConfusion

theorem removal_mono {ts ts' : ℤ} (h : ts ≤ ts') : removal ts ≤ removal ts' := by
  rcases lt_or_eq_of_le h with hlt | heq
  · exact Prod.Lex.toLex_le_toLex.mpr (.inl hlt)
  · rw [heq]

def rowEvent (row : Option Row) : WithBot Event := row.elim ⊥ fun r => (r.event : WithBot Event)

def removalEvent (ts : Option ℤ) : WithBot Event :=
  ts.elim ⊥ fun ts => (removal ts : WithBot Event)

def view (addr : String) (s : Device) : WithBot Event :=
  rowEvent (s.transports addr) ⊔ removalEvent (s.removedTransports addr)

/-- no transport was removed at its time or later -/
def Consistent (s : Device) : Prop := ∀ addr r ts, s.transports addr = some r →
  s.removedTransports addr = some ts → ts < r.addTimestamp

def rowOf : WithBot Event → Option Row
  | ⊥ => none
  | (e : Event) =>
    let (ts, rest) := ofLex e
    let (removed, rest) := ofLex rest
    let (enteredParam, rest) := ofLex rest
    let (configuredParam, isPublished) := ofLex rest
    if removed then none
    else some { enteredParam, configuredParam, addTimestamp := ts, isPublished }

theorem view_of_row {s : Device} (hs : Consistent s) {addr : String} {r : Row}
    (h : s.transports addr = some r) : view addr s = (r.event : WithBot Event) := by
  unfold view
  rw [h]
  cases hr : s.removedTransports addr with
  | none => exact sup_bot_eq _
  | some ts =>
    refine sup_eq_left.mpr (WithBot.coe_le_coe.mpr ?_)
    exact removal_le_event_iff.mpr (hs addr r ts h hr)

theorem transports_eq_rowOf {s : Device} (hs : Consistent s) (addr : String) :
    s.transports addr = rowOf (view addr s) := by
  cases h : s.transports addr with
  | some r =>
    rw [view_of_row hs h]
    rfl
  | none =>
    unfold view
    rw [h]
    cases s.removedTransports addr with
    | none => rfl
    | some ts => rfl

/-! ## harmless statements -/

section
variable (toLowercase : String → String)

def SaveOk (new : Row) : Option Row → Option ℤ → Prop
  | some r, _ => r.SameContent new ∨ r.addTimestamp < new.addTimestamp
  | none, some ts => ts < new.addTimestamp
  | none, none => True

def StmtOk (s : Device) (st : Stmt) : Prop :=
  (∃ configuredAddr, s.configuredAddr = some configuredAddr ∧
      st.addr toLowercase ≠ configuredAddr) ∧
    match st with
    | .save td => SaveOk td.row (s.transports (td.addr toLowercase))
        (s.removedTransports (td.addr toLowercase))
    | .remove _ => True

def Stmt.event : Stmt → Event
  | save td => td.row.event
  | remove rd => removal rd.timestamp

def elt (addr : String) (st : Stmt) : WithBot Event :=
  if st.addr toLowercase = addr then (st.event : WithBot Event) else ⊥

theorem overwrite_event {new r : Row} (h : r.SameContent new ∨ r.addTimestamp < new.addTimestamp) :
    ((new.overwrite r).getD r).event = r.event ⊔ new.event := by
  unfold Row.overwrite
  rcases h with hc | hlt
  · obtain ⟨h1, h2, h3⟩ := hc
    by_cases hlt : r.addTimestamp < new.addTimestamp
    · rw [if_pos (.inr (.inr (.inl hlt))), Option.getD_some,
        sup_eq_right.mpr (event_le_of_lt hlt)]
    · have hno : ¬ (r.enteredParam ≠ new.enteredParam ∨ r.configuredParam ≠ new.configuredParam ∨
          r.addTimestamp < new.addTimestamp ∨ r.isPublished ≠ new.isPublished) := by
        simp only [h1, h2, h3, hlt, ne_eq, not_true_eq_false, or_self, not_false_eq_true]
      rw [if_neg hno, Option.getD_none]
      exact (sup_eq_left.mpr
        (event_le_of_sameContent ⟨h1.symm, h2.symm, h3.symm⟩ (not_lt.mp hlt))).symm
  · rw [if_pos (.inr (.inr (.inl hlt))), Option.getD_some,
      sup_eq_right.mpr (event_le_of_lt hlt)]

theorem rowEvent_save {new : Row} {row : Option Row} {removed : Option ℤ}
    (h : SaveOk new row removed) {t : String → Option Row} {addr : String}
    (hrow : t addr = row) :
    rowEvent (upsert t addr new new.overwrite addr)
      = rowEvent row ⊔ (new.event : WithBot Event) := by
  cases row with
  | none =>
    rw [upsert_of_none _ _ hrow]
    exact (bot_sup_eq _).symm
  | some r =>
    rw [upsert_of_some _ _ hrow]
    show ((((new.overwrite r).getD r).event : Event) : WithBot Event) = _
    rw [overwrite_event h]
    exact WithBot.coe_sup _ _

theorem removalEvent_upsert (t : String → Option ℤ) (addr : String) (ts : ℤ) :
    removalEvent (upsert t addr ts (fun old => if ts > old then some ts else none) addr)
      = removalEvent (t addr) ⊔ (removal ts : WithBot Event) := by
  cases h : t addr with
  | none =>
    rw [upsert_of_none _ _ h]
    exact (bot_sup_eq _).symm
  | some old =>
    rw [upsert_of_some _ _ h]
    show ((removal _ : Event) : WithBot Event) = ((removal old : Event) : WithBot Event) ⊔ _
    rw [← WithBot.coe_sup]
    by_cases hlt : old < ts
    · rw [if_pos hlt, Option.getD_some, sup_eq_right.mpr (removal_mono hlt.le)]
    · rw [if_neg hlt, Option.getD_none, sup_eq_left.mpr (removal_mono (not_lt.mp hlt))]

theorem rowEvent_delete (t : String → Option Row) (addr : String) (ts : ℤ) :
    rowEvent (deleteRow t addr (fun r => r.addTimestamp ≤ ts) addr)
        ⊔ (removal ts : WithBot Event) = rowEvent (t addr) ⊔ (removal ts : WithBot Event) := by
  rw [deleteRow_self]
  cases t addr with
  | none => rfl
  | some r =>
    by_cases hle : r.addTimestamp ≤ ts
    · have hdel : (some r).filter (fun r => !decide (r.addTimestamp ≤ ts)) = none := by
        simp [hle]
      rw [hdel]
      show ⊥ ⊔ _ = ((r.event : Event) : WithBot Event) ⊔ _
      rw [bot_sup_eq, sup_eq_right.mpr (WithBot.coe_le_coe.mpr (event_le_removal_iff.mpr hle))]
    · have hdel : (some r).filter (fun r => !decide (r.addTimestamp ≤ ts)) = some r := by
        simp [hle]
      rw [hdel]

theorem apply_remove {s : Device} {rd : RemovedTransportData}
    (h : StmtOk toLowercase s (.remove rd)) :
    Stmt.apply toLowercase s (.remove rd) = { s with
      transports := deleteRow s.transports rd.addr fun r => r.addTimestamp ≤ rd.timestamp
      removedTransports := upsert s.removedTransports rd.addr rd.timestamp fun old =>
        if rd.timestamp > old then some rd.timestamp else none } := by
  obtain ⟨⟨configuredAddr, hc, hne⟩, _⟩ := h
  change rd.addr ≠ configuredAddr at hne
  have happly : Stmt.apply toLowercase s (.remove rd) = s.remove configuredAddr rd := by
    show s.configuredAddr.elim s _ = _
    rw [hc, Option.elim_some]
  rw [happly, Device.remove, if_neg hne]

theorem apply_view (addr : String) (s : Device) (st : Stmt) (h : StmtOk toLowercase s st) :
    view addr (st.apply toLowercase s) = view addr s ⊔ elt toLowercase addr st := by
  cases st with
  | save td =>
    obtain ⟨_, hok⟩ := h
    show rowEvent (upsert s.transports (td.addr toLowercase) td.row td.row.overwrite addr)
        ⊔ removalEvent (s.removedTransports addr)
      = (rowEvent (s.transports addr) ⊔ removalEvent (s.removedTransports addr))
        ⊔ if td.addr toLowercase = addr then (td.row.event : WithBot Event) else ⊥
    by_cases e : td.addr toLowercase = addr
    · subst e
      rw [if_pos rfl, rowEvent_save hok rfl, sup_right_comm]
    · rw [if_neg e, upsert_of_ne _ _ (Ne.symm e), sup_bot_eq]
  | remove rd =>
    rw [apply_remove toLowercase h]
    show rowEvent (deleteRow s.transports rd.addr (fun r => r.addTimestamp ≤ rd.timestamp) addr)
        ⊔ removalEvent (upsert s.removedTransports rd.addr rd.timestamp _ addr)
      = (rowEvent (s.transports addr) ⊔ removalEvent (s.removedTransports addr))
        ⊔ if rd.addr = addr then (removal rd.timestamp : WithBot Event) else ⊥
    by_cases e : rd.addr = addr
    · subst e
      rw [if_pos rfl, removalEvent_upsert, sup_comm (removalEvent _), ← sup_assoc,
        rowEvent_delete, sup_right_comm]
    · rw [if_neg e, upsert_of_ne _ _ (Ne.symm e), deleteRow_of_ne _ (Ne.symm e), sup_bot_eq]

theorem save_consistent (s : Device) (td : TransportData)
    (h : StmtOk toLowercase s (.save td)) (hs : Consistent s) :
    Consistent ((Stmt.save td).apply toLowercase s) := by
  intro addr r ts hr hts
  obtain ⟨_, hok⟩ := h
  change SaveOk td.row (s.transports (td.addr toLowercase))
    (s.removedTransports (td.addr toLowercase)) at hok
  change s.removedTransports addr = some ts at hts
  change upsert s.transports (td.addr toLowercase) td.row td.row.overwrite addr = some r at hr
  by_cases e : addr = td.addr toLowercase
  · subst e
    cases hold : s.transports (td.addr toLowercase) with
    | none =>
      rw [upsert_of_none _ _ hold] at hr
      cases hr
      rw [hold, hts] at hok
      exact hok
    | some old =>
      rw [upsert_of_some _ _ hold] at hr
      rw [hold] at hok
      -- the newer of the two rows is kept, and the old one is newer than the removal
      have hle : (removal ts) ≤ r.event := by
        rw [← Option.some.inj hr, overwrite_event hok]
        exact (removal_le_event_iff.mpr (hs _ old ts hold hts)).trans le_sup_left
      exact removal_le_event_iff.mp hle
  · rw [upsert_of_ne _ _ e] at hr
    exact hs addr r ts hr hts

theorem remove_consistent (s : Device) (rd : RemovedTransportData)
    (h : StmtOk toLowercase s (.remove rd)) (hs : Consistent s) :
    Consistent ((Stmt.remove rd).apply toLowercase s) := by
  intro addr r ts hr hts
  rw [apply_remove toLowercase h] at hr hts
  dsimp only at hr hts
  by_cases e : addr = rd.addr
  · subst e
    rw [deleteRow_self] at hr
    obtain ⟨hold, hlt⟩ := Option.filter_eq_some_iff.mp hr
    have hlt' : rd.timestamp < r.addTimestamp := by simpa using hlt
    cases hrem : s.removedTransports rd.addr with
    | none =>
      rw [upsert_of_none _ _ hrem] at hts
      cases hts
      exact hlt'
    | some old =>
      rw [upsert_of_some _ _ hrem] at hts
      have holdlt := hs _ r old hold hrem
      have hts' := Option.some.inj hts
      split at hts'
      · rw [← hts']
        exact hlt'
      · rw [← hts']
        exact holdlt
  · rw [deleteRow_of_ne _ e] at hr
    rw [upsert_of_ne _ _ e] at hts
    exact hs addr r ts hr hts

theorem apply_consistent (s : Device) (st : Stmt) (h : StmtOk toLowercase s st)
    (hs : Consistent s) : Consistent (st.apply toLowercase s) := by
  cases st with
  | save td => exact save_consistent toLowercase s td h hs
  | remove rd => exact remove_consistent toLowercase s rd h hs

/-! ## convergence -/

/-- the address was added at this time: it has such a row at the start or in a message -/
def KnownAddition (s : Device) (l : List SyncMessage) (addr : String) (ts : ℤ) : Prop :=
  (∃ r, s.transports addr = some r ∧ r.addTimestamp = ts) ∨
    ∃ m ∈ l, ∃ td, Stmt.save td ∈ statements m ∧ td.addr toLowercase = addr ∧ td.timestamp = ts

/-- the address was removed at this time: the device knows it at the start or from a message -/
def KnownRemoval (s : Device) (l : List SyncMessage) (addr : String) (ts : ℤ) : Prop :=
  s.removedTransports addr = some ts ∨
    ∃ m ∈ l, ∃ rd, Stmt.remove rd ∈ statements m ∧ rd.addr = addr ∧ rd.timestamp = ts

theorem apply_joinView (addr : String) : JoinView (Stmt.apply toLowercase) (StmtOk toLowercase)
    (view addr) (elt toLowercase addr) := ⟨apply_view toLowercase addr⟩

variable {s : Device} {l : List SyncMessage}

theorem run_consistent (hs : Consistent s)
    (h : RunOk (Stmt.apply toLowercase) (StmtOk toLowercase) s (l.flatMap statements)) :
    Consistent (run toLowercase s l) := by
  rw [run_eq]
  exact h.inv (apply_consistent toLowercase) hs

theorem run_view (addr : String)
    (h : RunOk (Stmt.apply toLowercase) (StmtOk toLowercase) s (l.flatMap statements)) :
    view addr (run toLowercase s l)
      = joinAll (elt toLowercase addr) (view addr s) (l.flatMap statements) := by
  rw [run_eq]
  exact (apply_joinView toLowercase addr).run s _ h

theorem removal_le_view {addr : String} {ts : ℤ}
    (h : RunOk (Stmt.apply toLowercase) (StmtOk toLowercase) s (l.flatMap statements))
    (hts : KnownRemoval s l addr ts) :
    (removal ts : WithBot Event) ≤ view addr (run toLowercase s l) := by
  rw [run_view toLowercase addr h]
  rcases hts with hts | ⟨m, hm, rd, hst, hrd, rfl⟩
  · refine le_trans ?_ (le_joinAll _ _ _)
    unfold view
    rw [hts]
    exact le_sup_right
  · have helt := elt_le_joinAll (elt toLowercase addr) (view addr s) (l.flatMap statements) _
      (List.mem_flatMap.mpr ⟨m, hm, hst⟩)
    have he : elt toLowercase addr (.remove rd) = (removal rd.timestamp : WithBot Event) :=
      if_pos hrd
    rwa [he] at helt

theorem view_le_removal {addr : String} {ts : ℤ}
    (h : RunOk (Stmt.apply toLowercase) (StmtOk toLowercase) s (l.flatMap statements))
    (hadd : ∀ t, KnownAddition toLowercase s l addr t → t ≤ ts)
    (hrem : ∀ t, KnownRemoval s l addr t → t ≤ ts) :
    view addr (run toLowercase s l) ≤ (removal ts : WithBot Event) := by
  rw [run_view toLowercase addr h, joinAll_le_iff]
  refine ⟨?_, ?_⟩
  · unfold view
    refine sup_le ?_ ?_
    · cases hr : s.transports addr with
      | none => exact bot_le
      | some r =>
        exact WithBot.coe_le_coe.mpr
          (event_le_removal_iff.mpr (hadd _ (.inl ⟨r, hr, rfl⟩)))
    · cases hr : s.removedTransports addr with
      | none => exact bot_le
      | some t => exact WithBot.coe_le_coe.mpr (removal_mono (hrem t (.inl hr)))
  · intro st hst
    obtain ⟨m, hm, hst⟩ := List.mem_flatMap.mp hst
    unfold elt
    split
    · next he =>
      cases st with
      | save td =>
        have hle := hadd td.timestamp (.inr ⟨m, hm, td, hst, he, rfl⟩)
        exact WithBot.coe_le_coe.mpr (event_le_removal_iff.mpr hle)
      | remove rd =>
        have hle := hrem rd.timestamp (.inr ⟨m, hm, rd, hst, he, rfl⟩)
        exact WithBot.coe_le_coe.mpr (removal_mono hle)
    · exact bot_le

/-- **Runs of harmless statements over the same messages end with the same transports, and an
address is absent whose newest removal is not older than its newest addition.** -/
theorem transports_converge (s : Device) (l l' : List SyncMessage) (hs : Consistent s)
    (hmem : ∀ m, m ∈ l ↔ m ∈ l')
    (h : RunOk (Stmt.apply toLowercase) (StmtOk toLowercase) s (l.flatMap statements))
    (h' : RunOk (Stmt.apply toLowercase) (StmtOk toLowercase) s (l'.flatMap statements)) :
    (∀ addr, (run toLowercase s l).transports addr = (run toLowercase s l').transports addr) ∧
      ∀ addr ts, KnownRemoval s l addr ts → (∀ t, KnownRemoval s l addr t → t ≤ ts) →
        (∀ t, KnownAddition toLowercase s l addr t → t ≤ ts) →
        (run toLowercase s l).transports addr = none := by
  refine ⟨?_, ?_⟩
  · intro addr
    have hstmts : ∀ st, st ∈ l.flatMap statements ↔ st ∈ l'.flatMap statements := by
      intro st
      simp only [List.mem_flatMap, hmem]
    rw [transports_eq_rowOf (run_consistent toLowercase hs h) addr,
      transports_eq_rowOf (run_consistent toLowercase hs h') addr,
      run_eq, run_eq, (apply_joinView toLowercase addr).converge s _ _ h h' hstmts]
  · intro addr ts hts hrem hadd
    cases hr : (run toLowercase s l).transports addr with
    | none => rfl
    | some r =>
      have hview := view_of_row (run_consistent toLowercase hs h) hr
      have hle := removal_le_view toLowercase h hts
      have hge := view_le_removal toLowercase h hadd hrem
      rw [hview] at hle hge
      have hlt := removal_le_event_iff.mp (WithBot.coe_le_coe.mp hle)
      have hnlt := event_le_removal_iff.mp (WithBot.coe_le_coe.mp hge)
      exact absurd hlt (not_lt.mpr hnlt)

end

/-! ## what the code does not check -/

def device : Device where
  configuredAddr := some "p@x"
  transports _ := none
  removedTransports _ := none

def addition (ts : ℤ) (json : String) : SyncMessage where
  transports := [{
    configured := { addr := "a@x", json }, entered := "", timestamp := ts, isPublished := true }]

def removalAt20 : SyncMessage where
  removedTransports := [{ addr := "a@x", timestamp := 20 }]

theorem transports_converge_removal :
    (∀ addr, (run id device [addition 10 "A", removalAt20]).transports addr
        = (run id device [addition 10 "A", addition 10 "A", removalAt20]).transports addr) ∧
      ∀ addr ts, KnownRemoval device [addition 10 "A", removalAt20] addr ts →
        (∀ t, KnownRemoval device [addition 10 "A", removalAt20] addr t → t ≤ ts) →
        (∀ t, KnownAddition id device [addition 10 "A", removalAt20] addr t → t ≤ ts) →
        (run id device [addition 10 "A", removalAt20]).transports addr = none := by
  refine transports_converge id device _ _ (fun _ _ _ h => nomatch h) (fun m => by simp)
    ⟨⟨⟨_, rfl, ?_⟩, trivial⟩, ⟨⟨_, rfl, ?_⟩, trivial⟩, trivial⟩
    ⟨⟨⟨_, rfl, ?_⟩, trivial⟩, ⟨⟨_, rfl, ?_⟩, .inl ⟨rfl, rfl, rfl⟩⟩, ⟨⟨_, rfl, ?_⟩, trivial⟩,
      trivial⟩
  -- neither address is the primary one
  all_goals decide +kernel

/-- An addition of time 10 that arrives after the removal of time 20 brings the transport back, and
after an addition of time 20 it overwrites the newer configuration. -/
theorem transports_diverge :
    (run id device [addition 10 "A", removalAt20]).transports "a@x" = none ∧
      ((run id device [removalAt20, addition 10 "A"]).transports "a@x").map Row.addTimestamp
        = some 10 ∧
      ((run id device [addition 10 "A", addition 20 "B"]).transports "a@x").map
        Row.configuredParam = some "B" ∧
      ((run id device [addition 20 "B", addition 10 "A"]).transports "a@x").map
        Row.configuredParam = some "A" := by
  decide +kernel

end EpsilonChat.Transport
