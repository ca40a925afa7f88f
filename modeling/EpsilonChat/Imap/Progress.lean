import EpsilonChat.Imap.NoneLost
import EpsilonChat.Imap.UidSets

/-!
# The fetch loop: progress, and the end of the UID range

`fetch_new_messages` calls `fetch_new_msg_batch` until a call says that there is nothing more to
fetch.  A call covers 500 UIDs, so the stored `uid_next` climbs towards the UIDNEXT that the server
reported when the folder was selected.

The last UID of a call is found with `saturating_add`, but the new `uid_next` with plain additions
of `u32`.  In a release build they WRAP: near the end of the UID range `old_uid_next + 500` is a
small number, below UIDNEXT, and below the stored `uid_next`, which therefore stays where it is.

* `Batch.NoOverflow`: none of the three additions of a call overflows;
* `Batch.Fits`: the same, said of what the call starts from: the stored `uid_next` and the UIDs of
  the messages that are answered or skipped;
* `noOverflow_iff_fits`: that this is the same for a call that succeeds;
* **`fetch_loop_progress_iff`**: the loop terminates, never moves `uid_next` back, reaches UIDNEXT
  and does not overflow, if and only if every call of it fits.
-/

namespace EpsilonChat.Imap

/-- the loop, for at most `fuel` calls; `batches i` is what the world answers to call `i` -/
def fetchLoop (batches : ℕ → Batch) :
    (fuel i : ℕ) → Folder → (readCnt : ℕ) → Option (Folder × Except FetchError Bool)
  | 0, _, _, _ => none
  | fuel + 1, i, s, readCnt =>
    match fetchNewMsgBatch s (batches i) with
    | (s, .error e) => some (s, .error e)
    | (s, .ok (n, more)) =>
      if more then fetchLoop batches fuel (i + 1) s (readCnt + n)
      else some (s, .ok (decide (readCnt + n > 0)))

structure Selected where
  newMail : Bool
  folderExists : Bool

def fetchNewMessages (sel : Selected) (batches : ℕ → Batch) (fuel : ℕ) (s : Folder) :
    Option (Folder × Except FetchError Bool) :=
  if !sel.newMail then some (s, .ok false)
  else if !sel.folderExists then some (s, .ok false)
  else fetchLoop batches fuel 0 s 0

/-! ## the calls of the loop -/

section
variable (batches : ℕ → Batch) (s : Folder)

def folderAt : ℕ → Folder
  | 0 => s
  | n + 1 => (fetchNewMsgBatch (folderAt n) (batches n)).1

def Succeeds (n : ℕ) : Prop :=
  ∃ cnt more, (fetchNewMsgBatch (folderAt batches s n) (batches n)).2 = .ok (cnt, more)

def FetchesMore (n : ℕ) : Prop :=
  ∃ cnt, (fetchNewMsgBatch (folderAt batches s n) (batches n)).2 = .ok (cnt, true)

def Reached (n : ℕ) : Prop := ∀ k < n, FetchesMore batches s k

end

def Batch.NoOverflow (b : Batch) (s : Folder) : Prop :=
  ∀ p f, b.done s = some (p, f) → f.largestUid + 1 < 2 ^ 32 ∧
    (f.ok → s.uidNext + uidsToPrefetch < 2 ^ 32 ∧ p.largestUidSkipped.getD 0 + 1 < 2 ^ 32)

def Batch.counts (b : Batch) (folder : String) (m : Prefetched) : Bool :=
  m.headersOk && (!m.isRequested folder b.config || b.answers.answer m.uid != .missing)

/-- the call stays below the end of the UID range -/
def Batch.Fits (b : Batch) (s : Folder) : Prop :=
  s.uidNext + uidsToPrefetch < 2 ^ 32 ∧ ∀ m ∈ b.listed, b.counts s.name m → m.uid < u32Max

/-- what the loop is to achieve, from the folder `s` on -/
structure Progresses (batches : ℕ → Batch) (s : Folder) (mailboxUidNext : ℕ) : Prop where
  terminates : ∃ fuel s' fetched,
    fetchNewMessages ⟨true, true⟩ batches fuel s = some (s', .ok fetched) ∧ mailboxUidNext ≤ s'.uidNext
  mono : ∀ n, Reached batches s n →
    (folderAt batches s n).uidNext ≤ (folderAt batches s (n + 1)).uidNext
  noOverflow : ∀ n, Reached batches s n → (batches n).NoOverflow (folderAt batches s n)

/-! ## what a call counts -/

theorem foldl_max_lt_iff (l : List ℕ) (a n : ℕ) : l.foldl max a < n ↔ a < n ∧ ∀ u ∈ l, u < n := by
  induction l generalizing a with
  | nil => simp
  | cons x l ih => rw [List.foldl_cons, ih, max_lt_iff, List.forall_mem_cons, and_assoc]

theorem sent_of_ok {uids : List ℕ} {a : Answers} (h : (fetchManyMsgs uids a).ok) :
    (fetchManyMsgs uids a).sent = uids.filter fun uid => a.answer uid != .missing := by
  unfold fetchManyMsgs at h ⊢
  split at h
  · next hempty =>
    rw [List.isEmpty_iff.mp hempty]
    rfl
  · next hne =>
    have hnone : a.failAfter = none := Option.isNone_iff_eq_none.mp h
    rw [if_neg hne, hnone]
    rfl

theorem planMsgs_skipped (folder : String) (cfg : Config) (ms : List Prefetched) (p p' : Plan)
    (h : planMsgs folder cfg p ms = .ok p') :
    p'.largestUidSkipped =
      ((ms.filter fun m => m.headersOk && !m.isRequested folder cfg).getLast?.map
        Prefetched.uid).or p.largestUidSkipped := by
  induction ms generalizing p with
  | nil =>
    cases h
    rfl
  | cons m ms ih =>
    unfold planMsgs at h
    split at h
    case isFalse hm => rw [ih p h, List.filter_cons_of_neg (by simp [hm])]
    case isTrue hm =>
      cases hsize : m.size with
      | none =>
        rw [hsize] at h
        cases h
      | some size =>
        rw [hsize] at h
        rw [ih _ h]
        rcases (planMsg_cases folder cfg p m hsize).2.2 with ⟨hw, hnot, -, hskip⟩ | ⟨hpost, -, hskip⟩
        · have hreq : m.isRequested folder cfg := by
            simp [Prefetched.isRequested, Prefetched.isWanted, hm, hw, hnot]
          rw [hskip, List.filter_cons_of_neg (by simp [hreq])]
        · have hreq : m.isRequested folder cfg = false := by
            by_contra hreq
            rw [Bool.not_eq_false] at hreq
            obtain ⟨hw, hnot⟩ := Bool.and_eq_true_iff.mp hreq
            rw [(hpost (Bool.and_eq_true_iff.mp hw).2).1] at hnot
            cases hnot
          rw [hskip, List.filter_cons_of_pos (by simp [hm, hreq]), List.getLast?_cons]
          cases (ms.filter _).getLast? <;> rfl

theorem getLast_lt_iff {ms : List Prefetched} (hsorted : (ms.map Prefetched.uid).Pairwise (· < ·))
    {n : ℕ} (hn : 0 < n) :
    (ms.getLast?.map Prefetched.uid).getD 0 < n ↔ ∀ m ∈ ms, m.uid < n := by
  rcases List.eq_nil_or_concat ms with rfl | ⟨ms, last, rfl⟩
  · exact iff_of_true hn nofun
  · rw [List.concat_eq_append] at hsorted ⊢
    rw [List.map_append, List.pairwise_append] at hsorted
    rw [List.getLast?_concat, List.forall_mem_append, List.forall_mem_singleton]
    refine ⟨fun h => ⟨fun m hm => ?_, h⟩, fun h => h.2⟩
    have hlt := hsorted.2.2 m.uid (List.mem_map_of_mem hm) last.uid (List.mem_singleton_self _)
    exact hlt.trans h

theorem fetchNewMsgBatch_ok {s : Folder} {b : Batch} {cnt : ℕ} {more : Bool}
    (h : (fetchNewMsgBatch s b).2 = .ok (cnt, more)) :
    ∃ p mailbox, b.done s = some (p, b.fetched p) ∧ b.selectedMailbox = some mailbox ∧
      planMsgs s.name b.config s.plan b.listed = .ok p ∧ (b.fetched p).ok ∧
      more = fetchMore s.uidNext (mailbox.getD 0) (b.fetched p) ∧
      (fetchNewMsgBatch s b).1 = s.finish (mailbox.getD 0) p (b.fetched p) := by
  unfold fetchNewMsgBatch at h ⊢
  unfold Batch.done Batch.listed
  rcases hpre : b.prefetch with _ | list
  · rw [hpre] at h
    cases h
  rw [hpre] at h
  rcases hplan : planMsgs s.name b.config s.plan list.msgs with p | p
  · simp only [hplan] at h
    cases h
  simp only [hplan] at h
  rcases hbox : b.selectedMailbox with _ | mailbox
  · rw [hbox] at h
    cases h
  rw [hbox] at h
  refine ⟨p, mailbox, ?_⟩
  simp only at h
  split at h
  · next hok =>
    cases h
    simp only [Option.elim_some, hplan]
    exact ⟨trivial, trivial, trivial, hok, trivial, trivial⟩
  · cases h

section
variable {s : Folder} {b : Batch} {p : Plan}

theorem counts_iff {m : Prefetched} : b.counts s.name m = true ↔
    (m.headersOk && !m.isRequested s.name b.config) = true ∨
      (m.isRequested s.name b.config = true ∧ (b.answers.answer m.uid != .missing) = true) := by
  have hheaders : m.isRequested s.name b.config = true → m.headersOk = true :=
    fun hreq => (Bool.and_eq_true_iff.mp (Bool.and_eq_true_iff.mp hreq).1).1
  rw [Batch.counts]
  by_cases hreq : m.isRequested s.name b.config = true
  · simp [hreq, hheaders hreq]
  · simp [hreq]

theorem counted_lt_iff (hplan : planMsgs s.name b.config s.plan b.listed = .ok p)
    (hok : (b.fetched p).ok) :
    (∀ m ∈ b.listed, b.counts s.name m → m.uid < u32Max) ↔
      (b.fetched p).largestUid < u32Max ∧ p.largestUidSkipped.getD 0 < u32Max := by
  have hfetched : b.fetched p = fetchManyMsgs (b.requestUids s.name) b.answers :=
    @Watched.fetched_eq { folder := s } b p (planMsgs_spec _ _ _ _ _ hplan)
  have hskipped : p.largestUidSkipped =
      (b.listed.filter fun m => m.headersOk && !m.isRequested s.name b.config).getLast?.map
        Prefetched.uid := by
    rw [planMsgs_skipped _ _ _ _ _ hplan, Folder.plan, Option.or_none]
  have hsorted := (listed_sorted b).sublist
    ((List.filter_sublist (p := fun m => m.headersOk && !m.isRequested s.name b.config)).map
      Prefetched.uid)
  rw [hfetched] at hok ⊢
  rw [Fetched.largestUid, sent_of_ok hok, foldl_max_lt_iff, hskipped,
    getLast_lt_iff hsorted (by decide)]
  constructor
  · intro h
    refine ⟨⟨by decide, ?_⟩, ?_⟩
    · intro uid huid
      obtain ⟨hmem, hanswer⟩ := List.mem_filter.mp huid
      obtain ⟨m, hm, rfl⟩ := List.mem_map.mp hmem
      obtain ⟨hlisted, hreq⟩ := List.mem_filter.mp hm
      exact h m hlisted (counts_iff.mpr (.inr ⟨hreq, hanswer⟩))
    · intro m hm
      obtain ⟨hlisted, hskip⟩ := List.mem_filter.mp hm
      exact h m hlisted (counts_iff.mpr (.inl hskip))
  · rintro ⟨⟨-, hsent⟩, hskip⟩ m hm hcounts
    rcases counts_iff.mp hcounts with hskipped | ⟨hreq, hanswer⟩
    · exact hskip m (List.mem_filter.mpr ⟨hm, hskipped⟩)
    · refine hsent m.uid (List.mem_filter.mpr ⟨?_, hanswer⟩)
      exact List.mem_map_of_mem (List.mem_filter.mpr ⟨hm, hreq⟩)

theorem noOverflow_iff_fits {cnt : ℕ} {more : Bool}
    (h : (fetchNewMsgBatch s b).2 = .ok (cnt, more)) : b.NoOverflow s ↔ b.Fits s := by
  obtain ⟨p, mailbox, hdone, -, hplan, hok, -⟩ := fetchNewMsgBatch_ok h
  have hcounted := counted_lt_iff hplan hok
  have hmax : ∀ n, n + 1 < 2 ^ 32 ↔ n < u32Max := by
    intro n
    unfold u32Max
    omega
  constructor
  · intro hno
    obtain ⟨hlargest, hrest⟩ := hno p _ hdone
    obtain ⟨hnext, hskipped⟩ := hrest hok
    exact ⟨hnext, hcounted.mpr ⟨(hmax _).mp hlargest, (hmax _).mp hskipped⟩⟩
  · rintro ⟨hnext, hlisted⟩ p' f hdone'
    rw [hdone] at hdone'
    cases hdone'
    obtain ⟨hlargest, hskipped⟩ := hcounted.mp hlisted
    exact ⟨(hmax _).mpr hlargest, fun _ => ⟨hnext, (hmax _).mpr hskipped⟩⟩

end

/-! ## one call -/

theorem finish_uidNext (s : Folder) (mailboxUidNext : ℕ) (p : Plan) (f : Fetched) :
    (s.finish mailboxUidNext p f).uidNext
      = max (newUidNext s.uidNext mailboxUidNext p f) s.uidNext := by
  have hmax : (s.finish mailboxUidNext p f).uidNext =
      if newUidNext s.uidNext mailboxUidNext p f > s.uidNext
        then newUidNext s.uidNext mailboxUidNext p f else s.uidNext := by
    unfold Folder.finish
    dsimp only
    split <;> rfl
  rw [hmax]
  split <;> omega

theorem uidNext_le (s : Folder) (b : Batch) : s.uidNext ≤ (fetchNewMsgBatch s b).1.uidNext := by
  rcases fetchNewMsgBatch_cases s b with ⟨-, imap, h⟩ | ⟨p, mailboxUidNext, -, -, -, h⟩
  · rw [h]
  · rw [h, finish_uidNext]
    exact Nat.le_max_right _ _

theorem call_progress {s : Folder} {b : Batch} {cnt : ℕ} {more : Bool} {mailbox : Option ℕ}
    (h : (fetchNewMsgBatch s b).2 = .ok (cnt, more)) (hbox : b.selectedMailbox = some mailbox)
    (hfits : b.Fits s) :
    min (s.uidNext + 500) (mailbox.getD 0) ≤ (fetchNewMsgBatch s b).1.uidNext ∧
      (more = true ↔ s.uidNext + 500 < mailbox.getD 0) := by
  obtain ⟨p, mailbox', -, hbox', -, hok, hmore, hnext⟩ := fetchNewMsgBatch_ok h
  rw [hbox] at hbox'
  cases hbox'
  have hadd : u32Add s.uidNext uidsToPrefetch = s.uidNext + 500 := Nat.mod_eq_of_lt hfits.1
  constructor
  · rw [hnext, finish_uidNext, newUidNext, if_pos hok, hadd]
    omega
  · rw [hmore, fetchMore, hok, Bool.true_and, hadd, decide_eq_true_iff]

/-! ## the loop -/

section
variable {batches : ℕ → Batch} {s : Folder} {mailbox : Option ℕ}

theorem Reached.succ {n : ℕ} (h : Reached batches s n) (hmore : FetchesMore batches s n) :
    Reached batches s (n + 1) := by
  intro k hk
  rcases Nat.lt_succ_iff_lt_or_eq.mp hk with hk | rfl
  · exact h k hk
  · exact hmore

theorem uidNext_folderAt (hbox : ∀ n, (batches n).selectedMailbox = some mailbox)
    (hfits : ∀ n, Reached batches s n → (batches n).Fits (folderAt batches s n)) (n : ℕ)
    (hn : Reached batches s n) : s.uidNext + 500 * n ≤ (folderAt batches s n).uidNext := by
  induction n with
  | zero => exact Nat.le_refl _
  | succ n ih =>
    have hreached : Reached batches s n := fun k hk => hn k (Nat.lt_succ_of_lt hk)
    obtain ⟨cnt, hres⟩ := hn n (Nat.lt_succ_self n)
    obtain ⟨hnext, hmore⟩ := call_progress hres (hbox n) (hfits n hreached)
    have hlt := hmore.mp rfl
    have hle := ih hreached
    show _ ≤ (fetchNewMsgBatch (folderAt batches s n) (batches n)).1.uidNext
    omega

theorem exists_last (hbox : ∀ n, (batches n).selectedMailbox = some mailbox)
    (hfits : ∀ n, Reached batches s n → (batches n).Fits (folderAt batches s n)) :
    ∃ n, Reached batches s n ∧ ¬ FetchesMore batches s n := by
  by_contra hlast
  have hnone : ∀ n, Reached batches s n → FetchesMore batches s n := by
    intro n hn
    by_contra hmore
    exact hlast ⟨n, hn, hmore⟩
  have hall : ∀ n, Reached batches s n := by
    intro n
    induction n with
    | zero => exact nofun
    | succ n ih => exact ih.succ (hnone n ih)
  obtain ⟨cnt, hres⟩ := hnone (mailbox.getD 0) (hall _)
  have hlt := (call_progress hres (hbox _) (hfits _ (hall _))).2.mp rfl
  have hle := uidNext_folderAt hbox hfits (mailbox.getD 0) (hall _)
  omega

theorem fetchLoop_ok {fuel i readCnt cnt : ℕ} {more : Bool}
    (h : (fetchNewMsgBatch s (batches i)).2 = .ok (cnt, more)) :
    fetchLoop batches (fuel + 1) i s readCnt =
      if more then fetchLoop batches fuel (i + 1) (fetchNewMsgBatch s (batches i)).1 (readCnt + cnt)
      else some ((fetchNewMsgBatch s (batches i)).1, .ok (decide (readCnt + cnt > 0))) := by
  have hcall : fetchNewMsgBatch s (batches i) =
      ((fetchNewMsgBatch s (batches i)).1, .ok (cnt, more)) := Prod.ext rfl h
  rw [fetchLoop, hcall]

theorem fetchLoop_eq {n cnt : ℕ}
    (hlast : (fetchNewMsgBatch (folderAt batches s n) (batches n)).2 = .ok (cnt, false))
    (hreached : Reached batches s n) (k i readCnt : ℕ) (hk : i + k = n) :
    ∃ fetched, fetchLoop batches (k + 1) i (folderAt batches s i) readCnt =
      some (folderAt batches s (n + 1), .ok fetched) := by
  induction k generalizing i readCnt with
  | zero =>
    subst hk
    exact ⟨_, fetchLoop_ok hlast⟩
  | succ k ih =>
    obtain ⟨cnt', hmore⟩ := hreached i (by omega)
    rw [fetchLoop_ok hmore]
    exact ih (i + 1) _ (by omega)

/-- **progress**: if every call succeeds, the loop achieves all it is to achieve if and only if
every call stays below the end of the UID range -/
theorem fetch_loop_progress_iff (s : Folder) (batches : ℕ → Batch) (mailbox : Option ℕ)
    (hbox : ∀ n, (batches n).selectedMailbox = some mailbox)
    (hsucc : ∀ n, Reached batches s n → Succeeds batches s n) :
    Progresses batches s (mailbox.getD 0) ↔
      ∀ n, Reached batches s n → (batches n).Fits (folderAt batches s n) := by
  constructor
  · intro h n hn
    obtain ⟨cnt, more, hres⟩ := hsucc n hn
    exact (noOverflow_iff_fits hres).mp (h.noOverflow n hn)
  · intro hfits
    refine ⟨?_, fun n _ => uidNext_le _ _, ?_⟩
    · obtain ⟨n, hreached, hstop⟩ := exists_last hbox hfits
      obtain ⟨cnt, more, hres⟩ := hsucc n hreached
      have hmore : more = false := by
        cases more with
        | false => rfl
        | true => exact absurd ⟨cnt, hres⟩ hstop
      rw [hmore] at hres
      obtain ⟨fetched, hloop⟩ := fetchLoop_eq hres hreached n 0 0 (Nat.zero_add n)
      refine ⟨n + 1, folderAt batches s (n + 1), fetched, hloop, ?_⟩
      obtain ⟨hnext, hless⟩ := call_progress hres (hbox n) (hfits n hreached)
      have hcovered : ¬ (folderAt batches s n).uidNext + 500 < mailbox.getD 0 := by
        rw [← hless]
        exact nofun
      show _ ≤ (fetchNewMsgBatch (folderAt batches s n) (batches n)).1.uidNext
      omega
    · intro n hn
      obtain ⟨cnt, more, hres⟩ := hsucc n hn
      exact (noOverflow_iff_fits hres).mpr (hfits n hn)

end

/-! ## the end of the UID range -/

def quiet (uidNext : ℕ) : Batch where
  prefetch := some ⟨[], List.Pairwise.nil⟩
  selectedMailbox := some (some uidNext)

theorem quiet_succeeds (s : Folder) (uidNext n : ℕ) : Succeeds (fun _ => quiet uidNext) s n :=
  ⟨_, _, rfl⟩

/-- from UID 1 to UIDNEXT 4: one call is enough -/
theorem fetch_loop_progress_small :
    Progresses (fun _ => quiet 4) { name := "INBOX", uidNext := 1 } 4 := by
  refine (fetch_loop_progress_iff { name := "INBOX", uidNext := 1 } (fun _ => quiet 4) (some 4)
    (fun _ => rfl) (fun n _ => quiet_succeeds _ 4 n)).mpr ?_
  intro n hn
  rcases n with _ | n
  · exact ⟨by decide, nofun⟩
  · obtain ⟨cnt, hmore⟩ := hn 0 (Nat.succ_pos n)
    have hstop : (fetchNewMsgBatch { name := "INBOX", uidNext := 1 } (quiet 4)).2
        = .ok (0, false) := rfl
    have hmore' := hstop.symm.trans hmore
    cases hmore'

/-- the stored `uid_next` is 295 below the UIDNEXT `u32::MAX`: the addition wraps to 204, which is
below UIDNEXT but not above the stored value, and every call is like the first -/
theorem fetch_loop_runs_forever :
    (∀ fuel, fetchNewMessages ⟨true, true⟩ (fun _ => quiet u32Max) fuel
        { name := "INBOX", uidNext := 4294967000 } = none) ∧
      ¬ (quiet u32Max).NoOverflow { name := "INBOX", uidNext := 4294967000 } := by
  have hcall : fetchNewMsgBatch { name := "INBOX", uidNext := 4294967000 } (quiet u32Max) =
      ({ name := "INBOX", uidNext := 4294967000 }, .ok (0, true)) := rfl
  constructor
  · intro fuel
    show fetchLoop _ fuel 0 _ 0 = none
    have hloop : ∀ i, fetchLoop (fun _ => quiet u32Max) fuel i
        { name := "INBOX", uidNext := 4294967000 } 0 = none := by
      induction fuel with
      | zero => exact fun _ => rfl
      | succ fuel ih =>
        intro i
        rw [fetchLoop, hcall]
        exact ih (i + 1)
    exact hloop 0
  · intro h
    exact absurd (h _ _ rfl).2 (by decide)

end EpsilonChat.Imap
