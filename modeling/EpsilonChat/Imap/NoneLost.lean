import EpsilonChat.Lib.Join
import EpsilonChat.Imap.Fetch

/-!
# No fetched message is lost

A run of `fetch_new_msg_batch` calls is watched (`Watched`): which UIDs were wanted by
`prefetch_should_download` and under which Message-ID, which were passed to `receive_imf_inner`,
and which the server says are not there (no answer to the request of the body or, after the UID
was wanted once, no listing although its range was asked for).

* `Watched.NoneLost`: every wanted UID below `uid_next` was delivered, is missing on the server, or
  its Message-ID is stored in `download` or `available_post_msgs`;
* `planMsgs_spec`: the loop sends every wanted message into one of the three lists;
* `fetched_of_le`: requests are made in ascending order, so after a failure all UIDs up to the
  largest answered one were reached.  Those of the POSTPONED messages were not requested, and after
  a failure they are not stored either;
* `none_lost`: **no message is lost in a run in which no failing batch has a postponed message below
  an answered UID.**
-/

namespace EpsilonChat.Imap
open Lib

/-! ## the watched run -/

def Batch.listed (b : Batch) : List Prefetched := b.prefetch.elim [] PrefetchList.msgs

/-- the loop asks `prefetch_should_download` about this message and the answer is yes -/
def Prefetched.isWanted (m : Prefetched) (folder : String) : Bool := m.headersOk && m.wanted folder

/-- a wanted message is postponed: it is over the limit, or a post-message and we are no bot -/
def Prefetched.postponed (m : Prefetched) (cfg : Config) : Bool :=
  !m.size.all cfg.withinLimit || (m.isPostMessage && !cfg.isBot)

def Prefetched.isRequested (m : Prefetched) (folder : String) (cfg : Config) : Bool :=
  m.isWanted folder && !m.postponed cfg

/-- the UIDs whose bodies are requested, if the loop gets through the list -/
def Batch.requestUids (b : Batch) (folder : String) : List ℕ :=
  (b.listed.filter fun m => m.isRequested folder b.config).map Prefetched.uid

def Batch.wanted (b : Batch) (folder : String) : List (ℕ × String) :=
  ((b.listed.takeWhile fun m => !m.headersOk || m.size.isSome).filter
    fun m => m.isWanted folder).map fun m => (m.uid, m.rfc724Mid)

/-- the plan and what was fetched, if the call gets that far -/
def Batch.done (b : Batch) (s : Folder) : Option (Plan × Fetched) :=
  match b.prefetch, b.selectedMailbox with
  | some list, some _ =>
    match planMsgs s.name b.config s.plan list.msgs with
    | .ok p => some (p, b.fetched p)
    | .error _ => none
  | _, _ => none

def Batch.delivered (b : Batch) (s : Folder) (uid : ℕ) : Bool :=
  (b.done s).any fun d => d.2.delivered.contains uid

def Batch.reportedMissing (b : Batch) (s : Folder) (uid : ℕ) : Bool :=
  (b.done s).any fun d => d.2.reportedMissing.contains uid

structure Watched where
  folder : Folder
  wanted : List (ℕ × String) := []
  delivered : ℕ → Bool := fun _ => false
  missing : ℕ → Bool := fun _ => false

namespace Watched

def vanished (s : Watched) (b : Batch) (uid : ℕ) : Bool :=
  b.prefetch.isSome && (s.wanted.map Prod.fst).contains uid && s.folder.uidNext ≤ uid &&
    uid ≤ uidLast s.folder.uidNext

def step (s : Watched) (b : Batch) : Watched where
  folder := (fetchNewMsgBatch s.folder b).1
  wanted := s.wanted ++ b.wanted s.folder.name
  delivered uid := s.delivered uid || b.delivered s.folder uid
  missing uid :=
    if (b.listed.map Prefetched.uid).contains uid then b.reportedMissing s.folder uid
    else s.missing uid || s.vanished b uid

def Recorded (s : Watched) (uid : ℕ) : Prop :=
  ∃ w ∈ s.wanted, w.1 = uid ∧ (w.2 ∈ s.folder.download ∨ w.2 ∈ s.folder.availablePostMsgs)

def Safe (s : Watched) (uid : ℕ) : Prop := s.delivered uid ∨ s.missing uid ∨ s.Recorded uid

def NoneLost (s : Watched) : Prop := ∀ w ∈ s.wanted, w.1 < s.folder.uidNext → s.Safe w.1

structure BatchOk (s : Watched) (b : Batch) : Prop where
  /-- the server lists UIDs of the requested range only, which are positive numbers -/
  inRange : ∀ m ∈ b.listed,
    0 < m.uid ∧ s.folder.uidNext ≤ m.uid ∧ m.uid ≤ uidLast s.folder.uidNext
  /-- what was wanted once is wanted again, until it is delivered -/
  wantedAgain : ∀ w ∈ s.wanted, ∀ m ∈ b.listed, m.uid = w.1 →
    s.delivered m.uid ∨ m.isWanted s.folder.name
  /-- if the requests fail after `n` UIDs, no message below an answered one of them is postponed -/
  nonePostponed : ∀ n, b.answers.failAfter = some n →
    ∀ m ∈ b.listed, m.isWanted s.folder.name → m.postponed b.config →
      ∀ uid ∈ (b.requestUids s.folder.name).take n, b.answers.answer uid ≠ .missing → uid < m.uid

end Watched

/-! ## the requests -/

theorem foldl_max_mem (l : List ℕ) (a : ℕ) : l.foldl max a = a ∨ l.foldl max a ∈ l := by
  rw [List.foldl_max]
  cases h : l.max? with
  | none => exact .inl (Nat.max_self a)
  | some m =>
    have hm : m ∈ l := List.max?_mem h
    rw [Option.getD_some]
    rcases Nat.le_total a m with hle | hle
    · rw [Nat.max_eq_right hle]
      exact .inr hm
    · rw [Nat.max_eq_left hle]
      exact .inl rfl

theorem mem_take_of_le {l : List ℕ} (hl : l.Pairwise (· < ·)) {n u v : ℕ} (hu : u ∈ l)
    (hv : v ∈ l.take n) (h : u ≤ v) : u ∈ l.take n := by
  rw [← List.take_append_drop n l] at hu hl
  rcases List.mem_append.mp hu with hu | hu
  · exact hu
  · exact absurd ((List.pairwise_append.mp hl).2.2 v hv u hu) (by omega)

theorem answered_of_mem (a : Answers) (l passedOn : List ℕ) {u : ℕ} (hu : u ∈ l) :
    u ∈ (l.filter fun uid => a.answer uid == .delivered) ++ passedOn ∨
      u ∈ l.filter fun uid => a.answer uid != .delivered := by
  by_cases e : a.answer u = .delivered
  · exact .inl (List.mem_append_left _ (List.mem_filter.mpr ⟨hu, by simp [e]⟩))
  · exact .inr (List.mem_filter.mpr ⟨hu, by simp [e]⟩)

section
variable (uids : List ℕ) (a : Answers)

theorem fetchManyMsgs_sent_mem {u : ℕ} (hu : u ∈ (fetchManyMsgs uids a).sent) : u ∈ uids := by
  unfold fetchManyMsgs at hu
  split at hu
  · exact absurd hu List.not_mem_nil
  · have hmem := (List.mem_filter.mp hu).1
    cases h : a.failAfter with
    | none => rwa [h] at hmem
    | some n =>
      rw [h] at hmem
      exact List.mem_of_mem_take hmem

theorem largestUid_mem :
    (fetchManyMsgs uids a).largestUid = 0 ∨ (fetchManyMsgs uids a).largestUid ∈ uids := by
  rcases foldl_max_mem (fetchManyMsgs uids a).sent 0 with h | h
  · exact .inl h
  · exact .inr (fetchManyMsgs_sent_mem uids a h)

theorem fetched_of_ok (hok : (fetchManyMsgs uids a).ok) {u : ℕ} (hu : u ∈ uids) :
    u ∈ (fetchManyMsgs uids a).delivered ∨ u ∈ (fetchManyMsgs uids a).reportedMissing := by
  have hne : ¬ uids.isEmpty := by
    rw [List.isEmpty_iff]
    exact List.ne_nil_of_mem hu
  unfold fetchManyMsgs at hok ⊢
  rw [if_neg hne] at hok ⊢
  have hnone : a.failAfter = none := Option.isNone_iff_eq_none.mp hok
  rw [hnone]
  exact answered_of_mem a _ _ hu

/-- after a failure every requested UID up to the largest answered one was delivered or is
missing, since the UIDs are requested in ascending order -/
theorem fetched_of_le (hsorted : uids.Pairwise (· < ·)) {u : ℕ} (hu : u ∈ uids) (hpos : 0 < u)
    (hle : u ≤ (fetchManyMsgs uids a).largestUid) :
    u ∈ (fetchManyMsgs uids a).delivered ∨ u ∈ (fetchManyMsgs uids a).reportedMissing := by
  have hmem : (fetchManyMsgs uids a).largestUid ∈ (fetchManyMsgs uids a).sent := by
    rcases foldl_max_mem (fetchManyMsgs uids a).sent 0 with h | h
    · have h0 : (fetchManyMsgs uids a).largestUid = 0 := h
      omega
    · exact h
  have hne : ¬ uids.isEmpty := by
    rw [List.isEmpty_iff]
    exact List.ne_nil_of_mem hu
  generalize hv : (fetchManyMsgs uids a).largestUid = v at hmem hle
  unfold fetchManyMsgs at hmem ⊢
  rw [if_neg hne] at hmem ⊢
  have hproc := (List.mem_filter.mp hmem).1
  cases h : a.failAfter with
  | none => exact answered_of_mem a _ _ hu
  | some n =>
    rw [h] at hproc
    exact answered_of_mem a _ _ (mem_take_of_le hsorted hu hproc hle)

end

/-! ## the loop -/

structure PlanSpec (folder : String) (cfg : Config) (p p' : Plan) (ms : List Prefetched) :
    Prop where
  requested : p'.uidsFetch = p.uidsFetch ++
    (ms.filter fun m => m.isRequested folder cfg).map fun m => (m.uid, m.rfc724Mid)
  available : ∀ mid ∈ p.availablePostMsgs, mid ∈ p'.availablePostMsgs
  later : ∀ mid ∈ p.downloadLater, mid ∈ p'.downloadLater
  skipped : p'.largestUidSkipped = p.largestUidSkipped ∨
    ∃ m ∈ ms, p'.largestUidSkipped = some m.uid
  postponed : ∀ m ∈ ms, m.isWanted folder → m.postponed cfg →
    m.rfc724Mid ∈ p'.availablePostMsgs ∨ m.rfc724Mid ∈ p'.downloadLater
  sized : ∀ m ∈ ms, (!m.headersOk || m.size.isSome) = true

theorem PlanSpec.nil (folder : String) (cfg : Config) (p : Plan) :
    PlanSpec folder cfg p p [] where
  requested := (List.append_nil _).symm
  available _ h := h
  later _ h := h
  skipped := .inl rfl
  postponed _ h := absurd h List.not_mem_nil
  sized _ h := absurd h List.not_mem_nil

theorem planMsg_cases (folder : String) (cfg : Config) (p : Plan) (m : Prefetched) {size : ℕ}
    (hsize : m.size = some size) :
    let p' := planMsg folder cfg p m size
    (∀ mid ∈ p.availablePostMsgs, mid ∈ p'.availablePostMsgs) ∧
      (∀ mid ∈ p.downloadLater, mid ∈ p'.downloadLater) ∧
      ((m.wanted folder ∧ m.postponed cfg = false ∧
          p'.uidsFetch = p.uidsFetch ++ [(m.uid, m.rfc724Mid)] ∧
          p'.largestUidSkipped = p.largestUidSkipped) ∨
        ((m.wanted folder → m.postponed cfg ∧
            (m.rfc724Mid ∈ p'.availablePostMsgs ∨ m.rfc724Mid ∈ p'.downloadLater)) ∧
          p'.uidsFetch = p.uidsFetch ∧ p'.largestUidSkipped = some m.uid)) := by
  unfold planMsg Prefetched.postponed
  rw [hsize]
  by_cases hw : m.wanted folder
  · by_cases hpost : m.isPostMessage
    · by_cases hlim : cfg.withinLimit size
      · by_cases hbot : cfg.isBot
        · simp +contextual [hw, hpost, hlim, hbot]
        · simp +contextual [hw, hpost, hlim, hbot]
      · simp +contextual [hw, hpost, hlim]
    · by_cases hlim : cfg.withinLimit size
      · simp [hw, hpost, hlim]
      · simp +contextual [hw, hpost, hlim]
  · simp [hw]

theorem PlanSpec.cons {folder : String} {cfg : Config} {p p' : Plan} {m : Prefetched} {size : ℕ}
    {ms : List Prefetched} (hm : m.headersOk) (hsize : m.size = some size)
    (h : PlanSpec folder cfg (planMsg folder cfg p m size) p' ms) :
    PlanSpec folder cfg p p' (m :: ms) := by
  obtain ⟨havail, hlater, hcases⟩ := planMsg_cases folder cfg p m hsize
  refine ⟨?_, ?_, ?_, ?_, ?_, ?_⟩
  · rw [h.requested, List.filter_cons]
    rcases hcases with ⟨hw, hnot, hfetch, _⟩ | ⟨hpost, hfetch, _⟩
    · rw [hfetch, if_pos (by simp [Prefetched.isRequested, Prefetched.isWanted, hm, hw, hnot]),
        List.map_cons, List.append_assoc, List.singleton_append]
    · have hnot : ¬ m.isRequested folder cfg := by
        intro hreq
        obtain ⟨hw, hnot⟩ := Bool.and_eq_true_iff.mp hreq
        rw [(hpost (Bool.and_eq_true_iff.mp hw).2).1] at hnot
        cases hnot
      rw [hfetch, if_neg hnot]
  · exact fun mid hmid => h.available mid (havail mid hmid)
  · exact fun mid hmid => h.later mid (hlater mid hmid)
  · rcases h.skipped with hs | ⟨m', hm', hs⟩
    · rcases hcases with ⟨_, _, _, hskip⟩ | ⟨_, _, hskip⟩
      · exact .inl (hs.trans hskip)
      · exact .inr ⟨m, List.mem_cons_self, hs.trans hskip⟩
    · exact .inr ⟨m', List.mem_cons_of_mem _ hm', hs⟩
  · intro m' hm' hw hlate
    rcases List.mem_cons.mp hm' with rfl | hm'
    · rcases hcases with ⟨_, hnot, _⟩ | ⟨hpost, _⟩
      · rw [hnot] at hlate
        cases hlate
      · rcases (hpost (Bool.and_eq_true_iff.mp hw).2).2 with hp | hp
        · exact .inl (h.available _ hp)
        · exact .inr (h.later _ hp)
    · exact h.postponed m' hm' hw hlate
  · intro m' hm'
    rcases List.mem_cons.mp hm' with rfl | hm'
    · rw [hsize, Option.isSome_some, Bool.or_true]
    · exact h.sized m' hm'

theorem PlanSpec.cons_unparsed {folder : String} {cfg : Config} {p p' : Plan} {m : Prefetched}
    {ms : List Prefetched} (hm : ¬ m.headersOk) (h : PlanSpec folder cfg p p' ms) :
    PlanSpec folder cfg p p' (m :: ms) := by
  have hnot : ¬ m.isWanted folder := fun hw => hm (Bool.and_eq_true_iff.mp hw).1
  refine ⟨?_, h.available, h.later, ?_, ?_, ?_⟩
  · have hreq : ¬ m.isRequested folder cfg := fun hreq => hnot (Bool.and_eq_true_iff.mp hreq).1
    rw [h.requested, List.filter_cons, if_neg hreq]
  · rcases h.skipped with hs | ⟨m', hm', hs⟩
    · exact .inl hs
    · exact .inr ⟨m', List.mem_cons_of_mem _ hm', hs⟩
  · intro m' hm' hw
    rcases List.mem_cons.mp hm' with rfl | hm'
    · exact absurd hw hnot
    · exact h.postponed m' hm' hw
  · intro m' hm'
    rcases List.mem_cons.mp hm' with rfl | hm'
    · rw [Bool.eq_false_iff.mpr hm]; rfl
    · exact h.sized m' hm'

theorem planMsgs_spec (folder : String) (cfg : Config) (ms : List Prefetched) (p p' : Plan)
    (h : planMsgs folder cfg p ms = .ok p') : PlanSpec folder cfg p p' ms := by
  induction ms generalizing p with
  | nil =>
    cases h
    exact PlanSpec.nil folder cfg p'
  | cons m ms ih =>
    unfold planMsgs at h
    split at h
    · next hm =>
      cases hsize : m.size with
      | none => rw [hsize] at h; cases h
      | some size =>
        rw [hsize] at h
        exact PlanSpec.cons hm hsize (ih _ h)
    · next hm => exact PlanSpec.cons_unparsed hm (ih _ h)

/-! ## one call -/

theorem mem_foldl_insert (l t : List String) (x : String) :
    x ∈ l.foldl (fun t mid => t.insert mid) t ↔ x ∈ t ∨ x ∈ l := by
  induction l generalizing t with
  | nil => simp
  | cons y l ih =>
    rw [List.foldl_cons, ih, List.mem_insert_iff, List.mem_cons]
    tauto

theorem fetchNewMsgBatch_cases (s : Folder) (b : Batch) :
    (b.done s = none ∧ ∃ imap, (fetchNewMsgBatch s b).1 = { s with imap }) ∨
      ∃ p mailboxUidNext, b.done s = some (p, b.fetched p) ∧ b.prefetch.isSome ∧
        planMsgs s.name b.config s.plan b.listed = .ok p ∧
        (fetchNewMsgBatch s b).1 = s.finish mailboxUidNext p (b.fetched p) := by
  unfold fetchNewMsgBatch Batch.done Batch.listed
  cases b.prefetch with
  | none => exact .inl ⟨rfl, s.imap, rfl⟩
  | some list =>
    dsimp only [Option.elim_some]
    cases b.selectedMailbox with
    | none =>
      cases planMsgs s.name b.config s.plan list.msgs with
      | error p => exact .inl ⟨rfl, p.imap, rfl⟩
      | ok p => exact .inl ⟨rfl, p.imap, rfl⟩
    | some uidNext =>
      dsimp only
      cases planMsgs s.name b.config s.plan list.msgs with
      | error p => exact .inl ⟨rfl, p.imap, rfl⟩
      | ok p => exact .inr ⟨p, uidNext.getD 0, rfl, rfl, rfl, rfl⟩

theorem tables_mono (s : Folder) (b : Batch) (mid : String) :
    (mid ∈ s.download → mid ∈ (fetchNewMsgBatch s b).1.download) ∧
      (mid ∈ s.availablePostMsgs → mid ∈ (fetchNewMsgBatch s b).1.availablePostMsgs) := by
  rcases fetchNewMsgBatch_cases s b with ⟨_, imap, h⟩ | ⟨p, mailboxUidNext, _, _, _, h⟩
  · rw [h]
    exact ⟨id, id⟩
  · rw [h]
    unfold Folder.finish
    dsimp only
    split
    · exact ⟨fun hm => (mem_foldl_insert _ _ _).mpr (.inl hm),
        fun hm => (mem_foldl_insert _ _ _).mpr (.inl hm)⟩
    · exact ⟨id, id⟩

theorem u32Add_le (a b : ℕ) : u32Add a b ≤ a + b := Nat.mod_le _ _

theorem u32Add_lt (a b : ℕ) : u32Add a b < 2 ^ 32 := Nat.mod_lt _ (by decide)

theorem listed_sorted (b : Batch) : (b.listed.map Prefetched.uid).Pairwise (· < ·) := by
  unfold Batch.listed
  cases b.prefetch with
  | none => exact List.Pairwise.nil
  | some list => exact list.sorted

namespace Watched
variable {s : Watched} {b : Batch}

theorem mem_wanted_listed {w : ℕ × String} {folder : String} (h : w ∈ b.wanted folder) :
    ∃ m ∈ b.listed, m.uid = w.1 ∧ m.isWanted folder := by
  obtain ⟨m, hm, rfl⟩ := List.mem_map.mp h
  obtain ⟨hm, hw⟩ := List.mem_filter.mp hm
  exact ⟨m, (List.takeWhile_sublist _).subset hm, rfl, hw⟩

theorem Recorded.step {uid : ℕ} (h : s.Recorded uid) : (s.step b).Recorded uid := by
  obtain ⟨w, hw, hu, hrec⟩ := h
  obtain ⟨hd, ha⟩ := tables_mono s.folder b w.2
  exact ⟨w, List.mem_append_left _ hw, hu, hrec.imp hd ha⟩

theorem not_listed_of_lt (hok : BatchOk s b) {uid : ℕ} (h : uid < s.folder.uidNext) :
    uid ∉ b.listed.map Prefetched.uid := by
  intro hmem
  obtain ⟨m, hm, rfl⟩ := List.mem_map.mp hmem
  have hr := (hok.inRange m hm).2.1
  omega

theorem Safe.step (hok : BatchOk s b) {uid : ℕ} (hlt : uid < s.folder.uidNext)
    (h : s.Safe uid) : (s.step b).Safe uid := by
  rcases h with h | h | h
  · exact .inl (by simp [Watched.step, h])
  · have hn := not_listed_of_lt hok hlt
    exact .inr (.inl (by simp only [Watched.step, List.contains_iff_mem, hn, h]; rfl))
  · exact .inr (.inr h.step)

/-! ## what `uid_next` passes -/

section
variable {p : Plan}

theorem fetched_eq (hspec : PlanSpec s.folder.name b.config s.folder.plan p b.listed) :
    b.fetched p = fetchManyMsgs (b.requestUids s.folder.name) b.answers := by
  unfold Batch.fetched
  rw [hspec.requested, Folder.plan, List.nil_append, List.map_map]
  rfl

theorem requestUids_sublist (b : Batch) (folder : String) :
    (b.requestUids folder).Sublist (b.listed.map Prefetched.uid) :=
  List.filter_sublist.map _

theorem requestUids_sorted (b : Batch) (folder : String) :
    (b.requestUids folder).Pairwise (· < ·) :=
  (listed_sorted b).sublist (requestUids_sublist b folder)

theorem largestUid_lt_of_postponed (hok : BatchOk s b)
    (hspec : PlanSpec s.folder.name b.config s.folder.plan p b.listed)
    (hfail : (b.fetched p).ok = false) {m : Prefetched} (hm : m ∈ b.listed)
    (hw : m.isWanted s.folder.name) (hlate : m.postponed b.config) :
    (b.fetched p).largestUid < m.uid := by
  rcases foldl_max_mem (b.fetched p).sent 0 with h | h
  · have h0 : (b.fetched p).largestUid = 0 := h
    rw [h0]
    exact (hok.inRange m hm).1
  · have hmem : (b.fetched p).largestUid ∈ (b.fetched p).sent := h
    generalize (b.fetched p).largestUid = uid at hmem
    rw [fetched_eq hspec] at hfail hmem
    unfold fetchManyMsgs at hfail hmem
    split at hfail
    · cases hfail
    · next hne =>
      rw [if_neg hne] at hmem
      cases hn : b.answers.failAfter with
      | none =>
        rw [hn] at hfail
        cases hfail
      | some n =>
        rw [hn] at hmem
        obtain ⟨htake, hanswer⟩ := List.mem_filter.mp hmem
        exact hok.nonePostponed n hn m hm hw hlate uid htake (bne_iff_ne.mp hanswer)

theorem newUidNext_le (hlast : ∀ m ∈ b.listed, m.uid ≤ uidLast s.folder.uidNext)
    (hspec : PlanSpec s.folder.name b.config s.folder.plan p b.listed) (mailboxUidNext : ℕ) :
    newUidNext s.folder.uidNext mailboxUidNext p (b.fetched p)
      ≤ min (s.folder.uidNext + 500) (2 ^ 32 - 1) := by
  have hmem : ∀ uid ∈ b.listed.map Prefetched.uid, uid ≤ s.folder.uidNext + 499 := by
    intro uid hu
    obtain ⟨m, hm, rfl⟩ := List.mem_map.mp hu
    have hr := hlast m hm
    unfold uidLast saturatingAdd uidsToPrefetch at hr
    omega
  have hlargest : (b.fetched p).largestUid ≤ s.folder.uidNext + 499 := by
    rw [fetched_eq hspec]
    rcases largestUid_mem (b.requestUids s.folder.name) b.answers with h | h
    · rw [h]
      exact Nat.zero_le _
    · exact hmem _ ((requestUids_sublist b _).subset h)
  have hskipped : p.largestUidSkipped.getD 0 ≤ s.folder.uidNext + 499 := by
    rcases hspec.skipped with h | ⟨m, hm, h⟩
    · rw [h]
      exact Nat.zero_le _
    · rw [h]
      exact hmem _ (List.mem_map.mpr ⟨m, hm, rfl⟩)
  have h1 := u32Add_le (b.fetched p).largestUid 1
  have h2 := u32Add_le s.folder.uidNext uidsToPrefetch
  have h3 := u32Add_le (p.largestUidSkipped.getD 0) 1
  have h1' := u32Add_lt (b.fetched p).largestUid 1
  have h2' := u32Add_lt s.folder.uidNext uidsToPrefetch
  have h3' := u32Add_lt (p.largestUidSkipped.getD 0) 1
  unfold uidsToPrefetch at h2 h2'
  unfold newUidNext uidsToPrefetch
  dsimp only
  split <;> omega

theorem safe_of_fetched (hdone : b.done s.folder = some (p, b.fetched p)) {uid : ℕ}
    (hlisted : uid ∈ b.listed.map Prefetched.uid)
    (h : uid ∈ (b.fetched p).delivered ∨ uid ∈ (b.fetched p).reportedMissing) :
    (s.step b).Safe uid := by
  rcases h with h | h
  · refine .inl ?_
    simp only [Watched.step, Batch.delivered, hdone, Option.any_some, List.contains_iff_mem.mpr h,
      Bool.or_true]
  · refine .inr (.inl ?_)
    simp only [Watched.step, List.contains_iff_mem.mpr hlisted, Batch.reportedMissing, hdone,
      Option.any_some, List.contains_iff_mem.mpr h, if_true]

theorem safe_of_not_listed (hprefetch : b.prefetch.isSome) {w : ℕ × String} (hw : w ∈ s.wanted)
    (hlisted : w.1 ∉ b.listed.map Prefetched.uid) (hge : s.folder.uidNext ≤ w.1)
    (hle : w.1 ≤ uidLast s.folder.uidNext) : (s.step b).Safe w.1 := by
  have hmem : (s.wanted.map Prod.fst).contains w.1 :=
    List.contains_iff_mem.mpr (List.mem_map.mpr ⟨w, hw, rfl⟩)
  have hvanished : s.vanished b w.1 := by
    simp only [vanished, hprefetch, hmem, hge, hle, decide_true, Bool.and_self]
  refine .inr (.inl ?_)
  simp only [Watched.step, List.contains_iff_mem, hlisted, hvanished, Bool.or_true, if_false]

theorem safe_of_listed (hok : BatchOk s b) (hdone : b.done s.folder = some (p, b.fetched p))
    (hspec : PlanSpec s.folder.name b.config s.folder.plan p b.listed) {mailboxUidNext : ℕ}
    (hfolder : (fetchNewMsgBatch s.folder b).1 = s.folder.finish mailboxUidNext p (b.fetched p))
    {m : Prefetched} (hm : m ∈ b.listed) (hw : m.isWanted s.folder.name)
    (hlt : m.uid < newUidNext s.folder.uidNext mailboxUidNext p (b.fetched p)) :
    (s.step b).Safe m.uid := by
  have hlisted : m.uid ∈ b.listed.map Prefetched.uid := List.mem_map.mpr ⟨m, hm, rfl⟩
  by_cases hlate : m.postponed b.config
  · -- the call succeeded, so the message is stored under the Message-ID it was listed with
    have hfok : (b.fetched p).ok = true := by
      by_contra hfail
      have hfail := Bool.not_eq_true _ ▸ hfail
      have habove := largestUid_lt_of_postponed hok hspec hfail hm hw hlate
      have hadd := u32Add_le (b.fetched p).largestUid 1
      have hnew : newUidNext s.folder.uidNext mailboxUidNext p (b.fetched p)
          = u32Add (b.fetched p).largestUid 1 := by
        unfold newUidNext
        rw [hfail]
        rfl
      omega
    have hwanted : (m.uid, m.rfc724Mid) ∈ b.wanted s.folder.name := by
      refine List.mem_map.mpr ⟨m, List.mem_filter.mpr ⟨?_, hw⟩, rfl⟩
      rw [List.takeWhile_eq_self_iff.mpr hspec.sized]
      exact hm
    refine .inr (.inr ⟨_, List.mem_append_right _ hwanted, rfl, ?_⟩)
    show _ ∈ (fetchNewMsgBatch s.folder b).1.download ∨
      _ ∈ (fetchNewMsgBatch s.folder b).1.availablePostMsgs
    rw [hfolder]
    unfold Folder.finish
    dsimp only
    rw [if_pos hfok]
    rcases hspec.postponed m hm hw hlate with h | h
    · exact .inr ((mem_foldl_insert _ _ _).mpr (.inr h))
    · exact .inl ((mem_foldl_insert _ _ _).mpr (.inr h))
  · have hreq : m.uid ∈ b.requestUids s.folder.name :=
      List.mem_map.mpr ⟨m, List.mem_filter.mpr ⟨hm, by simp [Prefetched.isRequested, hw, hlate]⟩,
        rfl⟩
    refine safe_of_fetched hdone hlisted ?_
    rw [fetched_eq hspec] at hlt ⊢
    cases hfok : (fetchManyMsgs (b.requestUids s.folder.name) b.answers).ok with
    | true => exact fetched_of_ok _ _ hfok hreq
    | false =>
      refine fetched_of_le _ _ (requestUids_sorted b _) hreq (hok.inRange m hm).1 ?_
      have hadd := u32Add_le (fetchManyMsgs (b.requestUids s.folder.name) b.answers).largestUid 1
      unfold newUidNext at hlt
      rw [hfok] at hlt
      dsimp only at hlt
      rw [if_neg Bool.false_ne_true] at hlt
      omega

end

/-! ## runs -/

def Inv (s : Watched) : Prop := s.NoneLost ∧ ∀ w ∈ s.wanted, 0 < w.1

theorem step_positive (hok : BatchOk s b) (h : ∀ w ∈ s.wanted, 0 < w.1) :
    ∀ w ∈ (s.step b).wanted, 0 < w.1 := by
  intro w hw
  rcases List.mem_append.mp hw with hw | hw
  · exact h w hw
  · obtain ⟨m, hm, he, _⟩ := mem_wanted_listed hw
    rw [← he]
    exact (hok.inRange m hm).1

theorem safe_of_passed (hok : BatchOk s b) {w : ℕ × String} (hw : w ∈ (s.step b).wanted)
    (hge : s.folder.uidNext ≤ w.1) (hlt : w.1 < (s.step b).folder.uidNext) :
    (s.step b).Safe w.1 := by
  change w.1 < (fetchNewMsgBatch s.folder b).1.uidNext at hlt
  rcases fetchNewMsgBatch_cases s.folder b with
    ⟨_, imap, h⟩ | ⟨p, mailboxUidNext, hdone, hprefetch, hplan, hfolder⟩
  · rw [h] at hlt
    exact absurd hlt (Nat.not_lt.mpr hge)
  · have hspec := planMsgs_spec _ _ _ _ _ hplan
    have hnew : w.1 < newUidNext s.folder.uidNext mailboxUidNext p (b.fetched p) := by
      have huid : (s.folder.finish mailboxUidNext p (b.fetched p)).uidNext
          = if newUidNext s.folder.uidNext mailboxUidNext p (b.fetched p) > s.folder.uidNext then
              newUidNext s.folder.uidNext mailboxUidNext p (b.fetched p)
            else s.folder.uidNext := by
        unfold Folder.finish
        dsimp only
        split <;> rfl
      rw [hfolder, huid] at hlt
      split at hlt <;> omega
    by_cases hlisted : w.1 ∈ b.listed.map Prefetched.uid
    · obtain ⟨m, hm, he⟩ := List.mem_map.mp hlisted
      have hagain : s.delivered m.uid ∨ ∃ m' ∈ b.listed, m'.uid = w.1 ∧
          m'.isWanted s.folder.name := by
        rcases List.mem_append.mp hw with hw | hw
        · exact (hok.wantedAgain w hw m hm he).imp_right fun h => ⟨m, hm, he, h⟩
        · exact .inr (mem_wanted_listed hw)
      rcases hagain with hdel | ⟨m', hm', he', hw'⟩
      · refine .inl ?_
        rw [← he]
        simp only [Watched.step, hdel, Bool.true_or]
      · rw [← he'] at hnew ⊢
        exact safe_of_listed hok hdone hspec hfolder hm' hw' hnew
    · have hold : w ∈ s.wanted := by
        rcases List.mem_append.mp hw with hw | hw
        · exact hw
        · obtain ⟨m, hm, he, _⟩ := mem_wanted_listed hw
          exact absurd (List.mem_map.mpr ⟨m, hm, he⟩) hlisted
      have hle := newUidNext_le (fun m hm => (hok.inRange m hm).2.2) hspec mailboxUidNext
      refine safe_of_not_listed hprefetch hold hlisted hge ?_
      unfold uidLast saturatingAdd uidsToPrefetch
      omega

theorem step_inv (s : Watched) (b : Batch) (hok : BatchOk s b) (h : Inv s) : Inv (s.step b) := by
  obtain ⟨hlost, hpos⟩ := h
  refine ⟨?_, step_positive hok hpos⟩
  intro w hw hlt
  by_cases hold : w.1 < s.folder.uidNext
  · rcases List.mem_append.mp hw with hw' | hw'
    · exact (hlost w hw' hold).step hok hold
    · obtain ⟨m, hm, he, _⟩ := mem_wanted_listed hw'
      exact absurd (List.mem_map.mpr ⟨m, hm, he⟩) (not_listed_of_lt hok hold)
  · exact safe_of_passed hok hw (Nat.not_lt.mp hold) hlt

/-- **At every point of a run whose batches are all as `BatchOk` says, no message is lost.** -/
theorem none_lost (folder : Folder) (l : List Batch)
    (h : RunOk Watched.step BatchOk { folder } l) (n : ℕ) :
    ((l.take n).foldl Watched.step { folder }).NoneLost := by
  rw [← List.take_append_drop n l, runOk_append] at h
  have hstart : Inv { folder } :=
    ⟨fun w hw => absurd hw List.not_mem_nil, fun w hw => absurd hw List.not_mem_nil⟩
  exact (h.1.inv step_inv hstart).1

/-! ## a lost message -/

instance (s : Watched) (uid : ℕ) : Decidable (s.Recorded uid) :=
  inferInstanceAs (Decidable (∃ w ∈ s.wanted, w.1 = uid ∧
    (w.2 ∈ s.folder.download ∨ w.2 ∈ s.folder.availablePostMsgs)))

instance (s : Watched) (uid : ℕ) : Decidable (s.Safe uid) :=
  inferInstanceAs (Decidable (_ ∨ _ ∨ _))

instance (s : Watched) : Decidable s.NoneLost :=
  inferInstanceAs (Decidable (∀ w ∈ s.wanted, w.1 < s.folder.uidNext → s.Safe w.1))

def inbox : Folder := { name := "INBOX", uidNext := 1 }

def small (uid : ℕ) (mid : String) : Prefetched := { uid, messageId := some mid, size := some 100 }

def post (uid : ℕ) (mid : String) : Prefetched := { small uid mid with isPostMessage := true }

/-- UID 3 is a post-message; the requests of UIDs 1 and 2 fail after the first -/
def failsBeforePost : Batch where
  prefetch := some ⟨[small 1 "a@x", small 2 "b@x", post 3 "c@x"], by decide⟩
  selectedMailbox := some (some 4)
  answers := { failAfter := some 1 }

/-- UID 1 is a post-message; the requests of UIDs 2 and 3 fail after the first -/
def failsAfterPost : Batch where
  prefetch := some ⟨[post 1 "a@x", small 2 "b@x", small 3 "c@x"], by decide⟩
  selectedMailbox := some (some 4)
  answers := { failAfter := some 1 }

def fetchesRest : Batch where
  prefetch := some ⟨[small 3 "c@x"], by decide⟩
  selectedMailbox := some (some 4)

theorem none_lost_failing :
    RunOk Watched.step BatchOk { folder := inbox } [failsBeforePost] ∧
      (([failsBeforePost].take 1).foldl Watched.step { folder := inbox }).NoneLost := by
  have hok : RunOk Watched.step BatchOk { folder := inbox } [failsBeforePost] := by
    refine ⟨⟨by decide, fun w hw => absurd hw List.not_mem_nil, ?_⟩, trivial⟩
    intro n hn
    cases hn
    decide
  exact ⟨hok, none_lost inbox _ hok 1⟩

/-- `uid_next` goes to 3, but UID 1 was postponed and is not stored, and the next call starts at
UID 3. -/
theorem postponed_lost :
    ([failsAfterPost].foldl Watched.step { folder := inbox }).folder.uidNext = 3 ∧
      ¬ ([failsAfterPost].foldl Watched.step { folder := inbox }).NoneLost ∧
      ¬ ([failsAfterPost, fetchesRest].foldl Watched.step { folder := inbox }).Safe 1 := by
  decide +kernel

end Watched

end EpsilonChat.Imap
