import EpsilonChat.Mime.Parts

/-!
# Files of leaves

Every attachment should be the content of one leaf of the MIME tree, under the type and the name of
that leaf.  `AddsOnly` is a preorder on the states of the parser, so that a statement about all parts
that are added passes through the walk statement by statement.

* `file`: what is stored for a node: its content, its types and its name;
* `OwnFileOf`, `NoCalendar`: what is stored, by the types, the names and the contents of the nodes;
* `visits`: the children of a multipart that are parsed, each with the state it is parsed in;
* `Own`: no calendar is stored for a `multipart/alternative`, and the second part of a sync message or
  status update is stored only as the file of a leaf;
* `handleMultiple_judged`: a multipart adds own files only IFF it is `Own` and its visits do;
* `Walked`: the nodes that the walk comes to;
* **`files_of_leaves`**: every file that is added is that of a LEAF, IFF all nodes that the walk
  comes to are `Own`.
-/

namespace EpsilonChat.Parts
open Lib Mime

/-! ## files of leaves -/

/-- the fields of a part that say what is attached -/
structure Attachment where
  file : Option String
  bytes : ℕ
  orgFilename : Option String
  filename : Option String
  mimetype : Option MimeType
  rawMime : Option String

def Part.attachment (part : Part) : Attachment where
  file := part.param.get .file
  bytes := part.bytes
  orgFilename := part.orgFilename
  filename := part.param.get .filename
  mimetype := part.mimetype
  rawMime := part.param.get .mimeType

/-- the content of a node, under its name and its types -/
def file (env : Env) (leaf : Info) : Option Attachment := do
  let data ← leaf.body
  let filename ← (getAttachmentFilename leaf).join
  let blob ← env.createBlob data filename
  some { file := some blob, bytes := data.length, orgFilename := some filename,
         filename := some filename, mimetype := env.parseMime leaf.mimetype,
         rawMime := some (env.toLowercase leaf.mimetype) }

def FileOf (env : Env) (leaf : Info) (part : Part) : Prop := file env leaf = some part.attachment

inductive IsLeaf (env : Env) : Mail → Info → Prop where
  | self {mail : Info} {subparts : List Mail} {embedded : Option Mail} :
      mimeS env mail ≠ .multiple ∨ subparts = [] → IsLeaf env (.mk mail subparts embedded) mail
  | subpart {mail leaf : Info} {subparts : List Mail} {embedded : Option Mail} {child : Mail} :
      child ∈ subparts → IsLeaf env child leaf → IsLeaf env (.mk mail subparts embedded) leaf
  | embedded {mail leaf : Info} {subparts : List Mail} {inner : Mail} :
      mimeS env mail = .message → IsLeaf env inner leaf →
      IsLeaf env (.mk mail subparts (some inner)) leaf

def AddsOnly (Q : Part → Prop) (s s' : Parser) : Prop :=
  ∃ added, s'.parts = s.parts ++ added ∧ ∀ part ∈ added, Q part

def OwnFile (env : Env) (P : Info → Prop) (part : Part) : Prop :=
  part.param.get .file ≠ none → ∃ leaf, P leaf ∧ FileOf env leaf part

abbrev Adds (env : Env) (P : Info → Prop) : Parser → Parser → Prop := AddsOnly (OwnFile env P)

abbrev Extends : Parser → Parser → Prop := AddsOnly fun _ => True

abbrev Judged (env : Env) (P : Info → Prop) {α : Type} (x : Prog α) (s : Parser) (C : Prop) : Prop :=
  Eff.Judged Extends (Adds env P) x s C

section
variable {env : Env} {P : Info → Prop} {Q Q' : Part → Prop} {s s' : Parser} {α β : Type}
variable {mail : Info} {mimetype : MimeType}

instance : IsPreorder Parser (AddsOnly Q) where
  refl s := ⟨[], (List.append_nil _).symm, fun _ h => absurd h List.not_mem_nil⟩
  trans := by
    rintro s₁ s₂ s₃ ⟨a, h₁, ha⟩ ⟨b, h₂, hb⟩
    refine ⟨a ++ b, by rw [h₂, h₁, List.append_assoc], ?_⟩
    intro part hpart
    rcases List.mem_append.mp hpart with h | h
    · exact ha part h
    · exact hb part h

theorem adds_of_parts_eq (h : s'.parts = s.parts) : AddsOnly Q s s' :=
  ⟨[], h.trans (List.append_nil _).symm, fun _ h => absurd h List.not_mem_nil⟩

theorem adds_singleton {part : Part} (h : s'.parts = s.parts ++ [part]) (hpart : Q part) :
    AddsOnly Q s s' := by
  refine ⟨[part], h, ?_⟩
  intro part' hpart'
  obtain rfl := List.mem_singleton.mp hpart'
  exact hpart

theorem AddsOnly.mono (hQ : ∀ part, Q part → Q' part) (h : AddsOnly Q s s') : AddsOnly Q' s s' := by
  obtain ⟨added, hparts, hadded⟩ := h
  exact ⟨added, hparts, fun part hpart => hQ part (hadded part hpart)⟩

/-- parts are only ever added, so a run can be judged on its parts -/
theorem splits_addsOnly : Eff.Splits Extends (AddsOnly Q) where
  sub _ _ := AddsOnly.mono fun _ _ => trivial
  left := by
    rintro s s' s'' ⟨a, h, -⟩ ⟨b, h', -⟩ ⟨c, h'', hc⟩
    rw [h', h, List.append_assoc, List.append_cancel_left_eq] at h''
    subst h''
    exact ⟨a, h, fun part hpart => hc part (List.mem_append_left _ hpart)⟩
  right := by
    rintro s s' s'' ⟨a, h, -⟩ ⟨b, h', -⟩ ⟨c, h'', hc⟩
    rw [h', h, List.append_assoc, List.append_cancel_left_eq] at h''
    subst h''
    exact ⟨b, h', fun part hpart => hc part (List.mem_append_right _ hpart)⟩

theorem respects_orFail {R : Parser → Parser → Prop} [IsPreorder Parser R] {e : PartError}
    {o : Option α} {f : α → Prog β} (h : ∀ a, o = some a → Eff.Respects R (f a) s) :
    Eff.Respects R (orFail e o >>= f) s := by
  cases o with
  | none => exact Eff.respects_fail e
  | some a => exact h a rfl

theorem marked_attachment (s : Parser) (part : Part) :
    (marked s part).attachment = part.attachment := by
  unfold marked
  split
  · simp [Part.attachment, Params.get_set_of_ne]
  · rfl

theorem filePart_attachment (s : Parser) (typ : Viewtype) (param : Params) (mimeType : MimeType)
    (rawMime : String) (data : Bytes) (filename blob : String) (isRelated : Bool) :
    (marked s (filePart typ param mimeType rawMime data filename blob isRelated)).attachment =
      { file := some blob, bytes := data.length, orgFilename := some filename,
        filename := some filename, mimetype := some mimeType, rawMime := some rawMime } := by
  rw [marked_attachment]
  simp [Part.attachment, filePart, Params.get_set_of_ne, Params.get_set_self]

theorem file_types {leaf : Info} {attachment : Attachment} (h : file env leaf = some attachment) :
    attachment.mimetype = env.parseMime leaf.mimetype ∧
      attachment.rawMime = some (env.toLowercase leaf.mimetype) := by
  simp only [file, bind, Option.bind_eq_some_iff] at h
  obtain ⟨data, -, filename, -, blob, -, hfile⟩ := h
  obtain rfl := Option.some.inj hfile
  exact ⟨rfl, rfl⟩

theorem respects_doAddSinglePart {part : Part} (h : part.param.get .file = none) :
    Eff.Respects (Adds env P) (doAddSinglePart part) s := by
  refine adds_singleton rfl fun hfile => absurd ?_ hfile
  exact (congrArg Attachment.file (marked_attachment s part)).trans h

theorem addShownPart_adds (mimeType : MimeType) (body : String) (shown : TextPart.Shown)
    (s : Parser) : Eff.Respects (Adds env P) (addShownPart mimeType body shown) s := by
  have hnone : (shownPart mimeType body shown).param.get .file = none := by
    unfold shownPart
    dsimp only
    split
    · exact Params.get_set_of_ne _ _ (by decide)
    · rfl
  unfold addShownPart
  split
  · exact respects_doAddSinglePart hnone
  · exact Eff.respects_pure _

theorem addTextPart_adds (mail : Info) (mimeType : MimeType) (body : String) (s : Parser) :
    Eff.Respects (Adds env P) (addTextPart env mail mimeType body) s := by
  unfold addTextPart
  apply Eff.respects_get
  apply respects_orFail
  intro bot _
  refine Eff.respects_bind (Eff.respects_modify (adds_of_parts_eq rfl)) fun s₁ _ _ _ => ?_
  refine Eff.respects_bind (addShownPart_adds mimeType body _ s₁) fun s₂ _ _ _ => ?_
  exact Eff.respects_modify (adds_of_parts_eq rfl)

theorem addUnnamedPart_adds (mail : Info) (mimeType : MimeType) (s : Parser) :
    Eff.Respects (Adds env P) (addUnnamedPart env mail mimeType) s := by
  unfold addUnnamedPart
  split
  · split
    · exact respects_doAddSinglePart rfl
    · exact Eff.respects_pure _
  · split
    · split
      · exact addTextPart_adds mail mimeType _ s
      · exact Eff.respects_pure _
    · exact Eff.respects_pure _

/-! ## exact conditions -/

theorem judged_pure (a : α) (s : Parser) : Judged env P (pure a) s True :=
  splits_addsOnly.judged (Eff.respects_pure a)

theorem judged_orFail {e : PartError} {o : Option α} {f : α → Prog β} {C : α → Prop}
    (h : ∀ a, o = some a → Judged env P (f a) s (C a)) :
    Judged env P (orFail e o >>= f) s (∀ a, o = some a → C a) := by
  cases o with
  | none => exact (splits_addsOnly.judged (Eff.respects_fail e)).congr (iff_of_true trivial nofun)
  | some a => exact (h a rfl).congr ⟨fun hC _ ha => Option.some.inj ha ▸ hC, fun hC => hC a rfl⟩

/-- data that become a file are those of a leaf -/
def IsOwn (env : Env) (P : Info → Prop) (mimeType : MimeType) (rawMime : String) (data : Bytes)
    (filename : String) : Prop :=
  isStored env mimeType data filename = true → ∃ leaf, P leaf ∧ file env leaf = some
    { file := env.createBlob data filename, bytes := data.length, orgFilename := some filename,
      filename := some filename, mimetype := some mimeType, rawMime := some rawMime }

theorem doAddSingleFilePart_judged (msgType : Viewtype) (mimeType : MimeType) (rawMime : String)
    (data : Bytes) (filename : String) (isRelated : Bool) (s : Parser) :
    Judged env P (doAddSingleFilePart env msgType mimeType rawMime data filename isRelated) s
      (IsOwn env P mimeType rawMime data filename) := by
  have hparts := doAddSingleFilePart_parts env msgType mimeType rawMime data filename isRelated s
  unfold IsOwn
  split at hparts
  · next hstored =>
    obtain ⟨typ, param, blob, hblob, hparts⟩ := hparts
    have hfile := filePart_attachment s typ param mimeType rawMime data filename blob isRelated
    have hne : (Part.attachment _).file ≠ none := fun h => by cases (congrArg _ hfile).symm.trans h
    rw [hblob, ← hfile]
    refine ⟨adds_singleton hparts trivial, fun h _ => ?_, fun h => adds_singleton hparts fun _ => h hstored⟩
    obtain ⟨added, hadded, hown⟩ := h
    obtain rfl := List.append_cancel_left (hparts.symm.trans hadded)
    exact hown _ List.mem_cons_self hne
  · next hstored =>
    exact (splits_addsOnly.judged (adds_of_parts_eq hparts)).congr
      (iff_of_true trivial fun h => absurd h hstored)

/-- what is stored for the node itself is the file of a leaf -/
def OwnFileOf (env : Env) (P : Info → Prop) (mail : Info) : Prop :=
  ∀ filename, getAttachmentFilename mail = some filename →
    ∀ mimeType, env.parseMime mail.mimetype = some mimeType → ∀ name, filename = some name →
    ∀ data, mail.body = some data → IsOwn env P mimeType (env.toLowercase mail.mimetype) data name

theorem ownFileOf_leaf (h : P mail) : OwnFileOf env P mail := by
  rintro _ hname mimeType hmime name rfl data hbody hstored
  obtain ⟨blob, hblob⟩ := Option.isSome_iff_exists.mp (Bool.and_eq_true_iff.mp hstored).2
  refine ⟨mail, h, ?_⟩
  simp [file, hname, hmime, hbody, hblob]

theorem addSinglePartIfKnown_judged (mail : Info) (isRelated : Bool) (s : Parser) :
    Judged env P (addSinglePartIfKnown env mail isRelated) s (OwnFileOf env P mail) := by
  refine judged_orFail fun filename _ => Eff.judged_get ((judged_orFail (C := fun t =>
    ∀ name, filename = some name → ∀ data, mail.body = some data →
      IsOwn env P t.1 (env.toLowercase mail.mimetype) data name) fun t _ => ?_).congr ?_)
  · cases filename with
    | some name =>
      refine (Eff.judged_bind_left splits_addsOnly (judged_orFail fun data _ =>
        doAddSingleFilePart_judged ..) fun s' _ _ => Eff.respects_get (Eff.respects_pure _)).congr ?_
      exact ⟨by rintro h _ ⟨⟩; exact h, fun h => h name rfl⟩
    | none =>
      exact (splits_addsOnly.judged (Eff.respects_bind (addUnnamedPart_adds mail t.1 s)
        fun s' _ _ _ => Eff.respects_get (Eff.respects_pure _))).congr (iff_of_true trivial nofun)
  · unfold getMimeType
    cases env.parseMime mail.mimetype with
    | none => exact iff_of_true nofun nofun
    | some mimeType => exact ⟨by rintro h _ ⟨⟩; exact h _ rfl, by rintro h _ ⟨⟩; exact h _ rfl⟩

/-- the content of a `multipart/alternative` is not stored for a calendar in it -/
def NoCalendar (env : Env) (mail child : Info) : Prop :=
  ∀ mimetype, env.parseMime child.mimetype = some mimetype → isCalendar mimetype = true →
    ∀ filename, getAttachmentFilename child = some filename → ∀ data, mail.body = some data →
      ¬ isStored env mimetype data (filename.getD "calendar.ics") = true

theorem addCalendar_judged (hmail : env.parseMime mail.mimetype = some mimetype)
    (htype : mimetype.type_ ≠ "text") (isRelated : Bool) (child : Info) (s : Parser) :
    Judged env P (addCalendar env isRelated mail child) s (NoCalendar env mail child) := by
  refine judged_orFail fun mimetype' _ => ?_
  split
  · next hcalendar =>
    refine (judged_orFail fun filename _ => judged_orFail fun data _ =>
      (doAddSingleFilePart_judged ..).congr ?_).congr ⟨fun h _ => h, fun h => h hcalendar⟩
    -- the file would have the type of the calendar and the raw type of the multipart
    refine ⟨fun h hstored => ?_, fun h hstored => absurd hstored h⟩
    obtain ⟨leaf, -, hfile⟩ := h hstored
    obtain ⟨hmime, hraw⟩ := file_types hfile
    obtain rfl := env.parse_lowercase _ _ _ _ hmime.symm hmail (Option.some.inj hraw).symm
    simp only [isCalendar, Bool.and_eq_true, beq_iff_eq] at hcalendar
    exact htype hcalendar.1
  · next hcalendar =>
    exact (judged_pure _ s).congr (iff_of_true trivial fun h => absurd h hcalendar)

/-! ## visits -/

def afterOk (run : Parser × Except PartError α) (next : Parser → α → List (Child × Parser)) :
    List (Child × Parser) :=
  match run with
  | (s, .ok a) => next s a
  | (_, .error _) => []

/-- the type of a node, if `get_mime_type` is reached and gives one -/
def typeOf (env : Env) (mail : Info) : Option MimeType :=
  (getAttachmentFilename mail).bind fun _ => env.parseMime mail.mimetype

section
variable (env : Env) (isRelated : Bool)

/-- one child after the other; with `first`, up to the first that adds a part -/
def visitsEach (first : Bool) : List Child → Parser → List (Child × Parser)
  | [], _ => []
  | child :: children, s =>
    (child, s) :: afterOk (child.parse isRelated s) fun s' added =>
      if first && added then [] else visitsEach first children s'

def visitsPreferred : List Child → Parser → List (Child × Parser)
  | [], _ => []
  | child :: children, s =>
    match typeOf env child.info with
    | none => []
    | some mimeType =>
      if mimeType = textPlain ∨ mimeType.type_ = "multipart" then [(child, s)]
      else visitsPreferred children s

/-- the children that the loop over the calendars comes to -/
def visitsCalendars (mail : Info) : List Child → Parser → List (Child × Parser)
  | [], _ => []
  | child :: children, s =>
    (child, s) :: afterOk (addCalendar env isRelated mail child.info s) fun s' _ =>
      visitsCalendars mail children s'

/-- the children of a multipart that are parsed, and the states in which they are -/
def visits (mail : Info) (subparts : List Child) (s : Parser) : Option Branch → List (Child × Parser)
  | some .alternative =>
    visitsPreferred env subparts.reverse s ++
      afterOk (addPreferred env isRelated subparts.reverse s) fun s' added =>
        afterOk (addCalendars env isRelated mail subparts.reverse s') fun s'' _ =>
          if added then [] else visitsEach isRelated true subparts.reverse s''
  | some .signed => (subparts.take 1).map (·, s)
  | some .deliveryStatus =>
    afterOk (Eff.ofExcept (processDeliveryStatus env (subparts.map Child.info)) s) fun s' report =>
      visitsEach isRelated false subparts { s' with deliveryReport := report.or s'.deliveryReport }
  | some .all => visitsEach isRelated false subparts s
  | _ => []

end

/-- nothing is mixed up in the multipart itself -/
def Own (env : Env) (P : Info → Prop) (isRelated : Bool) (mail : Info) (subparts : List Child)
    (s : Parser) : Option Branch → Prop
  | some .alternative => ∀ s' added,
      addPreferred env isRelated subparts.reverse s = (s', .ok added) →
      ∀ visit ∈ visitsCalendars env isRelated mail subparts.reverse s',
        NoCalendar env mail visit.1.info
  | some .secondPart => ∀ second, subparts[1]? = some second → OwnFileOf env P second.info
  | _ => True

def OwnVisits (env : Env) (P : Info → Prop) (isRelated : Bool) (visits : List (Child × Parser)) : Prop :=
  ∀ visit ∈ visits, Eff.Respects (Adds env P) (visit.1.parse isRelated) visit.2

abbrev Extending (isRelated : Bool) (children : List Child) : Prop :=
  ∀ child ∈ children, ∀ s, Eff.Respects Extends (child.parse isRelated) s

section
variable {isRelated : Bool} {children : List Child}

theorem ownVisits_nil : OwnVisits env P isRelated [] :=
  fun _ h => absurd h List.not_mem_nil

theorem ownVisits_cons {child : Child} {visits : List (Child × Parser)} :
    OwnVisits env P isRelated ((child, s) :: visits) ↔
      Eff.Respects (Adds env P) (child.parse isRelated) s ∧ OwnVisits env P isRelated visits :=
  List.forall_mem_cons

theorem forall_mem_afterOk {run : Parser × Except PartError α}
    {next : Parser → α → List (Child × Parser)} {Q : Child × Parser → Prop} :
    (∀ visit ∈ afterOk run next, Q visit) ↔
      ∀ s' a, run = (s', .ok a) → ∀ visit ∈ next s' a, Q visit := by
  obtain ⟨s, e | a⟩ := run
  · exact iff_of_true (fun _ h => absurd h List.not_mem_nil) fun _ _ h => nomatch congrArg Prod.snd h
  · refine ⟨?_, fun h => h s a rfl⟩
    rintro h _ _ ⟨⟩
    exact h

theorem ownVisits_afterOk {run : Parser × Except PartError α}
    {next : Parser → α → List (Child × Parser)} :
    OwnVisits env P isRelated (afterOk run next) ↔
      ∀ s' a, run = (s', .ok a) → OwnVisits env P isRelated (next s' a) :=
  forall_mem_afterOk

/-- both places that ask for the type of a node begin like this -/
theorem judged_typeOf (mail : Info) {f : MimeType × Viewtype → Prog β}
    {D : Option MimeType → Prop} (hnone : D none)
    (h : ∀ t, env.parseMime mail.mimetype = some t.1 → Judged env P (f t) s (D (some t.1))) :
    Judged env P (do
      let filename ← orFail .filename (getAttachmentFilename mail)
      let s ← Eff.get
      orFail .mimeType (getMimeType env mail filename s.hasChatVersion) >>= f) s
      (D (typeOf env mail)) := by
  have hfail : ∀ e, Judged env P (Eff.fail e : Prog β) s (D none) := fun e =>
    (splits_addsOnly.judged (Eff.respects_fail e)).congr (iff_of_true trivial hnone)
  unfold typeOf getMimeType
  cases getAttachmentFilename mail with
  | none => exact hfail .filename
  | some filename =>
    cases hmime : env.parseMime mail.mimetype with
    | none => exact hfail .mimeType
    | some m =>
      have hm := h (m, viewtypeOf env mail m filename s.hasChatVersion) hmime
      exact ⟨hm.extends_, hm.iff⟩

theorem addAll_judged (hext : Extending isRelated children) (s : Parser) :
    Judged env P (addAll isRelated children) s
      (OwnVisits env P isRelated (visitsEach isRelated false children s)) := by
  induction children generalizing s with
  | nil => exact (judged_pure _ s).congr (iff_of_true trivial ownVisits_nil)
  | cons child children ih =>
    have hrest := ih fun c hc => hext c (List.mem_cons_of_mem _ hc)
    refine (Eff.judged_bind splits_addsOnly ⟨hext child List.mem_cons_self s, Iff.rfl⟩
      fun s' added _ => Eff.judged_bind_left splits_addsOnly (hrest s') fun _ _ _ =>
        Eff.respects_pure _).congr ?_
    rw [visitsEach, ownVisits_cons, ownVisits_afterOk]
    rfl

theorem addPreferred_judged (hext : Extending isRelated children) (s : Parser) :
    Judged env P (addPreferred env isRelated children) s
      (OwnVisits env P isRelated (visitsPreferred env children s)) := by
  induction children generalizing s with
  | nil => exact (judged_pure _ s).congr (iff_of_true trivial ownVisits_nil)
  | cons child children ih =>
    have hrest := ih fun c hc => hext c (List.mem_cons_of_mem _ hc)
    rw [addPreferred, visitsPreferred]
    refine judged_typeOf child.info (D := fun t => OwnVisits env P isRelated (match t with
      | none => []
      | some m => if m = textPlain ∨ m.type_ = "multipart" then [(child, s)]
        else visitsPreferred env children s)) ownVisits_nil fun t _ => ?_
    dsimp only
    split
    · refine ⟨hext child List.mem_cons_self s, ?_⟩
      rw [ownVisits_cons]
      exact (and_iff_left ownVisits_nil).symm
    · exact hrest s

theorem addFirst_judged (hext : Extending isRelated children) (s : Parser) :
    Judged env P (addFirst isRelated children) s
      (OwnVisits env P isRelated (visitsEach isRelated true children s)) := by
  induction children generalizing s with
  | nil => exact (judged_pure _ s).congr (iff_of_true trivial ownVisits_nil)
  | cons child children ih =>
    have hrest := ih fun c hc => hext c (List.mem_cons_of_mem _ hc)
    refine (Eff.judged_bind splits_addsOnly ⟨hext child List.mem_cons_self s, Iff.rfl⟩
      (D := fun s' added => OwnVisits env P isRelated
        (if added then [] else visitsEach isRelated true children s')) ?_).congr ?_
    · intro s' added _
      cases added with
      | true => exact (judged_pure _ s').congr (iff_of_true trivial ownVisits_nil)
      | false => exact hrest s'
    · rw [visitsEach, ownVisits_cons, ownVisits_afterOk]
      rfl

theorem addCalendars_judged {mail : Info} {mimetype : MimeType}
    (hmail : env.parseMime mail.mimetype = some mimetype) (htype : mimetype.type_ ≠ "text")
    (s : Parser) :
    Judged env P (addCalendars env isRelated mail children) s
      (∀ visit ∈ visitsCalendars env isRelated mail children s, NoCalendar env mail visit.1.info) := by
  induction children generalizing s with
  | nil => exact (judged_pure _ s).congr (iff_of_true trivial fun _ h => absurd h List.not_mem_nil)
  | cons child children ih =>
    refine (Eff.judged_bind splits_addsOnly (addCalendar_judged hmail htype isRelated child.info s)
      fun s' _ _ => ih s').congr ?_
    rw [visitsCalendars, List.forall_mem_cons, forall_mem_afterOk]

theorem addAlternative_judged {mail : Info} {mimetype : MimeType}
    (hmail : env.parseMime mail.mimetype = some mimetype) (htype : mimetype.type_ ≠ "text")
    (hext : Extending isRelated children) (s : Parser) :
    Judged env P (addAlternative env isRelated mail children) s
      (Own env P isRelated mail children s (some .alternative) ∧
        OwnVisits env P isRelated (visits env isRelated mail children s (some .alternative))) := by
  have hrev : Extending isRelated children.reverse := fun c hc => hext c (List.mem_reverse.mp hc)
  have hfallback : ∀ added s', Judged env P (addFallback isRelated added children.reverse) s'
      (OwnVisits env P isRelated (if added then [] else visitsEach isRelated true children.reverse s')) := by
    intro added s'
    cases added with
    | true => exact (judged_pure _ s').congr (iff_of_true trivial ownVisits_nil)
    | false => exact addFirst_judged hrev s'
  have hend : ∀ s' anyPartAdded, Eff.Respects (Adds env P) (do
      Eff.modify fun s => { s with
        isMimeModified := s.isMimeModified || (anyPartAdded && 1 < children.length) }
      pure anyPartAdded : Prog Bool) s' := fun s' _ =>
    Eff.respects_bind_pure (Eff.respects_modify (adds_of_parts_eq rfl))
  refine (Eff.judged_bind splits_addsOnly (addPreferred_judged hrev s) fun s' added _ =>
    Eff.judged_bind splits_addsOnly (addCalendars_judged hmail htype s')
      fun s'' _ _ => Eff.judged_bind_left splits_addsOnly (hfallback added s'')
        fun s₃ anyPartAdded _ => hend s₃ anyPartAdded).congr ?_
  have happend : ∀ l l', OwnVisits env P isRelated (l ++ l') ↔
      OwnVisits env P isRelated l ∧ OwnVisits env P isRelated l' := fun l l' => List.forall_mem_append
  rw [visits, happend, ownVisits_afterOk]
  constructor
  · rintro ⟨hpreferred, hrest⟩
    exact ⟨fun s' added hrun => (hrest s' added hrun).1, hpreferred, fun s' added hrun =>
      ownVisits_afterOk.mpr (hrest s' added hrun).2⟩
  · rintro ⟨hcalendars, hpreferred, hrest⟩
    exact ⟨hpreferred, fun s' added hrun => ⟨hcalendars s' added hrun,
      ownVisits_afterOk.mp (hrest s' added hrun)⟩⟩

theorem branch_multipart {mimetype : MimeType} {mail : Info} {n : ℕ}
    (h : branch mimetype mail n = .alternative) : mimetype.type_ ≠ "text" := by
  unfold branch at h
  split at h
  · cases h
  · next hmultipart =>
    rw [not_not.mp hmultipart]
    decide

def branchOf (env : Env) (mail : Info) (subparts : ℕ) : Option Branch :=
  (typeOf env mail).map (branch · mail subparts)

/-- a multipart adds own files only, IFF it is `Own` and its visits do -/
theorem handleMultiple_judged (mail : Info) (hext : Extending isRelated children) (s : Parser) :
    Judged env P (handleMultiple env isRelated mail children) s
      (Own env P isRelated mail children s (branchOf env mail children.length) ∧
        OwnVisits env P isRelated
          (visits env isRelated mail children s (branchOf env mail children.length))) := by
  unfold handleMultiple branchOf
  refine judged_typeOf mail (D := fun t =>
    Own env P isRelated mail children s (t.map (branch · mail children.length)) ∧
    OwnVisits env P isRelated (visits env isRelated mail children s
      (t.map (branch · mail children.length)))) ⟨trivial, ownVisits_nil⟩ fun t ht => ?_
  have hnone : ∀ {x : Prog Bool} {b : Branch}, Eff.Respects (Adds env P) x s →
      Own env P isRelated mail children s (some b) →
      visits env isRelated mail children s (some b) = [] →
      Judged env P x s (Own env P isRelated mail children s (some b) ∧
        OwnVisits env P isRelated (visits env isRelated mail children s (some b))) := by
    intro x b hx hown hvisits
    rw [hvisits]
    exact (splits_addsOnly.judged hx).congr (iff_of_true trivial ⟨hown, ownVisits_nil⟩)
  dsimp only [Option.map_some]
  cases hbranch : branch t.1 mail children.length with
  | alternative => exact addAlternative_judged ht (branch_multipart hbranch) hext s
  | signed =>
    cases children with
    | nil => exact hnone (Eff.respects_pure _) trivial rfl
    | cons first rest =>
      refine ⟨hext first List.mem_cons_self s, ?_⟩
      rw [visits]
      exact (ownVisits_cons.trans (and_iff_left ownVisits_nil)).symm.trans (and_iff_right trivial).symm
  | dispositionNotification =>
    refine hnone ?_ trivial rfl
    refine Eff.respects_bind (Eff.respects_ofExcept _) fun s₁ report _ _ => ?_
    refine Eff.respects_bind (Eff.respects_modify (adds_singleton rfl fun hfile => absurd rfl hfile))
      fun s₂ _ _ _ => Eff.respects_pure _
  | deliveryStatus =>
    have hchildren : ∀ (report : Option DeliveryReport) (s' : Parser), Judged env P (do
        Eff.modify fun s : Parser => { s with deliveryReport := report.or s.deliveryReport }
        addAll isRelated children) s' (OwnVisits env P isRelated (visitsEach isRelated false children
          { s' with deliveryReport := report.or s'.deliveryReport })) := fun report s' =>
      (Eff.judged_bind_right splits_addsOnly (Eff.respects_modify (adds_of_parts_eq rfl))
        fun s'' _ _ => addAll_judged hext s'').congr ⟨fun h => h _ () rfl, by rintro h _ _ ⟨⟩; exact h⟩
    refine (Eff.judged_bind_right splits_addsOnly (Eff.respects_ofExcept _)
      fun s' report _ => hchildren report s').congr ?_
    rw [visits, ownVisits_afterOk]
    exact (and_iff_right trivial).symm
  | secondPart =>
    cases hsecond : children[1]? with
    | none => exact hnone (Eff.respects_pure _) (fun second h => by cases hsecond.symm.trans h) rfl
    | some second =>
      refine (Eff.judged_bind_left splits_addsOnly (addSinglePartIfKnown_judged second.info isRelated s)
        fun _ _ _ => Eff.respects_pure _).congr ?_
      constructor
      · intro h
        refine ⟨fun second' hsecond' => ?_, ownVisits_nil⟩
        obtain rfl := Option.some.inj (hsecond.symm.trans hsecond')
        exact h
      · exact fun h => h.1 second hsecond
  | all => exact (addAll_judged hext s).congr (and_iff_right trivial).symm
  | nothing => exact hnone (Eff.respects_pure _) trivial rfl

end

theorem mem_afterOk {run : Parser × Except PartError α}
    {next : Parser → α → List (Child × Parser)} {v : Child × Parser} (h : v ∈ afterOk run next) :
    ∃ s a, v ∈ next s a := by
  obtain ⟨s, e | a⟩ := run
  · cases h
  · exact ⟨s, a, h⟩

theorem mem_of_mem_visitsEach {isRelated first : Bool} {children : List Child}
    {v : Child × Parser} (h : v ∈ visitsEach isRelated first children s) : v.1 ∈ children := by
  induction children generalizing s with
  | nil => cases h
  | cons child children ih =>
    rcases List.mem_cons.mp h with rfl | h
    · exact List.mem_cons_self
    · obtain ⟨s', a, h⟩ := mem_afterOk h
      split at h
      · cases h
      · exact List.mem_cons_of_mem _ (ih h)

theorem mem_of_mem_visitsPreferred {children : List Child} {v : Child × Parser}
    (h : v ∈ visitsPreferred env children s) : v.1 ∈ children := by
  induction children with
  | nil => cases h
  | cons child children ih =>
    unfold visitsPreferred at h
    split at h
    · cases h
    · split at h
      · rw [List.mem_singleton.mp h]
        exact List.mem_cons_self
      · exact List.mem_cons_of_mem _ (ih h)

theorem mem_of_mem_visits {isRelated : Bool} {mail : Info} {subparts : List Child} {b : Option Branch}
    {v : Child × Parser} (h : v ∈ visits env isRelated mail subparts s b) : v.1 ∈ subparts := by
  unfold visits at h
  split at h
  · rcases List.mem_append.mp h with h | h
    · exact List.mem_reverse.mp (mem_of_mem_visitsPreferred h)
    · obtain ⟨s', added, h⟩ := mem_afterOk h
      obtain ⟨s'', _, h⟩ := mem_afterOk h
      split at h
      · cases h
      · exact List.mem_reverse.mp (mem_of_mem_visitsEach h)
  · obtain ⟨child, hchild, rfl⟩ := List.mem_map.mp h
    exact List.mem_of_mem_take hchild
  · obtain ⟨s', report, h⟩ := mem_afterOk h
    exact mem_of_mem_visitsEach h
  · exact mem_of_mem_visitsEach h
  · cases h

end

/-! ## the tree -/

def childOf (env : Env) (mail : Mail) : Child where
  info := mail.info
  parse := parseMimeRecursive env mail

theorem parsers_eq (env : Env) (mails : List Mail) : parsers env mails = mails.map (childOf env) := by
  induction mails with
  | nil => rfl
  | cons mail mails ih => rw [parsers, ih, List.map_cons, childOf]

def relatedBelow (env : Env) (mail : Info) (isRelated : Bool) : Bool :=
  isRelated || env.toLowercase mail.mimetype == "multipart/related"

/-- `parse_mime_recursive`, called for a tree, comes to a node of it -/
inductive Walked (env : Env) : Mail → Bool → Parser → Mail → Bool → Parser → Prop where
  | self (tree : Mail) (isRelated : Bool) (s : Parser) : Walked env tree isRelated s tree isRelated s
  | subpart {mail : Info} {subparts : List Mail} {embedded : Option Mail} {child node : Mail}
      {isRelated isRelated' : Bool} {s s₁ s' : Parser} :
      mimeS env mail = .multiple → child ∈ subparts →
      (childOf env child, s₁) ∈ visits env (relatedBelow env mail isRelated) mail (parsers env subparts) s
        (branchOf env mail subparts.length) →
      Walked env child (relatedBelow env mail isRelated) s₁ node isRelated' s' →
      Walked env (.mk mail subparts embedded) isRelated s node isRelated' s'
  | embedded {mail : Info} {subparts : List Mail} {inner node : Mail} {raw : Bytes}
      {isRelated isRelated' : Bool} {s s' : Parser} :
      mimeS env mail = .message → mail.body = some raw → raw.isEmpty = false →
      Walked env inner (relatedBelow env mail isRelated) s node isRelated' s' →
      Walked env (.mk mail subparts (some inner)) isRelated s node isRelated' s'

/-- a multipart is `Own` -/
def OwnNode (env : Env) (P : Info → Prop) : Mail → Bool → Parser → Prop
  | .mk mail subparts _, isRelated, s => mimeS env mail = .multiple →
    Own env P (relatedBelow env mail isRelated) mail (parsers env subparts) s
      (branchOf env mail subparts.length)

theorem Mail.induct {motive : Mail → Prop} (h : ∀ mail subparts embedded,
      (∀ child ∈ subparts, motive child) → (∀ inner, embedded = some inner → motive inner) →
      motive (.mk mail subparts embedded)) : ∀ tree, motive tree
  | .mk mail subparts embedded => h mail subparts embedded (fun child _ => Mail.induct h child)
      (fun inner _ => Mail.induct h inner)

theorem parse_judged {env : Env} {P : Info → Prop} (tree : Mail)
    (hP : ∀ leaf, IsLeaf env tree leaf → P leaf) (isRelated : Bool) (s : Parser) :
    Judged env P (parseMimeRecursive env tree isRelated) s
      (∀ node isRelated' s', Walked env tree isRelated s node isRelated' s' →
        OwnNode env P node isRelated' s') := by
  induction tree using Mail.induct generalizing isRelated s with
  | h mail subparts embedded ih ihe =>
    rw [parseMimeRecursive]
    cases hmime : mimeS env mail with
    | single =>
      have hleaf : P mail := hP mail (.self (.inl (by rw [hmime]; decide)))
      refine (addSinglePartIfKnown_judged mail _ s).congr
        (iff_of_true (ownFileOf_leaf hleaf) ?_)
      intro node _ _ hwalked
      cases hwalked with
      | self => exact fun hmultiple => absurd (hmime.symm.trans hmultiple) nofun
      | subpart h => exact absurd (hmime.symm.trans h) nofun
      | embedded h => exact absurd (hmime.symm.trans h) nofun
    | message =>
      refine (judged_orFail (C := fun raw => raw.isEmpty = false →
        ∀ inner, embedded = some inner → ∀ node isRelated' s',
          Walked env inner (relatedBelow env mail isRelated) s node isRelated' s' →
          OwnNode env P node isRelated' s') fun raw _ => ?_).congr ?_
      · split
        · next hempty =>
          refine (judged_pure _ s).congr (iff_of_true trivial fun h => ?_)
          rw [hempty] at h
          cases h
        · next hempty =>
          rw [Bool.not_eq_true] at hempty
          cases hembedded : embedded with
          | none =>
            exact (splits_addsOnly.judged (Eff.respects_fail _)).congr (iff_of_true trivial nofun)
          | some inner =>
            subst hembedded
            refine (ihe inner rfl (fun leaf hleaf => hP leaf (.embedded hmime hleaf)) _ s).congr ?_
            exact ⟨fun h _ _ hinner => Option.some.inj hinner ▸ h, fun h => h hempty inner rfl⟩
      · constructor
        · intro h node isRelated' s' hwalked
          cases hwalked with
          | self => exact fun hmultiple => absurd (hmime.symm.trans hmultiple) nofun
          | subpart h => exact absurd (hmime.symm.trans h) nofun
          | embedded _ hbody hempty hinner => exact h _ hbody hempty _ rfl _ _ _ hinner
        · rintro h raw hbody hempty inner rfl node isRelated' s' hwalked
          exact h _ _ _ (.embedded hmime hbody hempty hwalked)
    | multiple =>
      have hchild : ∀ child ∈ subparts, ∀ isRelated s, Judged env P
          (parseMimeRecursive env child isRelated) s (∀ node isRelated' s',
            Walked env child isRelated s node isRelated' s' → OwnNode env P node isRelated' s') :=
        fun child hchild => ih child hchild fun leaf hleaf => hP leaf (.subpart hchild hleaf)
      have hext : Extending (relatedBelow env mail isRelated) (parsers env subparts) := by
        intro child hmem s
        rw [parsers_eq] at hmem
        obtain ⟨mail', hmail', rfl⟩ := List.mem_map.mp hmem
        exact (hchild mail' hmail' _ s).extends_
      refine (handleMultiple_judged mail hext s).congr ?_
      rw [show (parsers env subparts).length = subparts.length by rw [parsers_eq, List.length_map]]
      constructor
      · rintro ⟨hown, hvisits⟩ node isRelated' s' hwalked
        cases hwalked with
        | self => exact fun _ => hown
        | subpart _ hmem hvisit hwalked =>
          exact (hchild _ hmem _ _).iff.mp (hvisits _ hvisit) _ _ _ hwalked
        | embedded h => exact absurd (hmime.symm.trans h) nofun
      · intro h
        refine ⟨h _ _ _ (.self ..) hmime, ?_⟩
        rintro ⟨child, s₁⟩ hvisit
        have hmem := mem_of_mem_visits hvisit
        rw [parsers_eq] at hmem
        obtain ⟨mail', hmail', rfl⟩ := List.mem_map.mp hmem
        exact (hchild mail' hmail' _ s₁).iff.mpr fun node isRelated' s' hwalked =>
          h _ _ _ (.subpart hmime hmail' hvisit hwalked)

/-- **Every file that is added is that of a leaf, with its content, its MIME type and its name, IFF
all nodes that the walk comes to are `Own`.** -/
theorem files_of_leaves (env : Env) (tree : Mail) (isRelated : Bool) (s : Parser) :
    Adds env (IsLeaf env tree) s (parseMimeRecursive env tree isRelated s).1 ↔
      ∀ node isRelated' s', Walked env tree isRelated s node isRelated' s' →
        OwnNode env (IsLeaf env tree) node isRelated' s' :=
  (parse_judged tree (fun _ h => h) isRelated s).iff

/-! ## an invitation -/

def ascii (s : String) : Bytes := s.toList.map fun c => UInt8.ofNat c.toNat

/-- a `multipart/alternative` with a preamble -/
def invitation : Mail :=
  .mk { mimetype := "multipart/alternative", params := [("boundary", "b")],
        body := some (ascii "MIME\r\n"), text := some "MIME\r\n" }
    [.mk { mimetype := "text/plain", body := some (ascii "Hi\r\n"), text := some "Hi\r\n" } [] none,
      .mk { mimetype := "text/calendar", body := some (ascii "BEGIN:VCALENDAR\r\nEND:VCALENDAR\r\n"),
            text := some "BEGIN:VCALENDAR\r\nEND:VCALENDAR\r\n" } [] none] none

def afterInvitation : Parser := (parseMimeRecursive plainEnv invitation false {}).1

/-- The attachment has the six bytes of the preamble and not those of the calendar. -/
theorem invitation_mixed :
    (afterInvitation.parts.map fun part => (part.mimetype, part.bytes)) =
        [(some textPlain, 0), (some { type_ := "text", subtype := "calendar" }, 6)] ∧
      ¬ Adds plainEnv (IsLeaf plainEnv invitation) {} afterInvitation := by
  refine ⟨by decide +kernel, ?_⟩
  rintro ⟨added, hparts, hadded⟩
  obtain rfl : afterInvitation.parts = added := hparts
  have hsecond : afterInvitation.parts[1]?.map (fun part => (part.attachment.mimetype,
      part.attachment.rawMime, part.attachment.file.isSome)) =
      some (some { type_ := "text", subtype := "calendar" }, some "multipart/alternative", true) := by
    decide +kernel
  obtain ⟨part, hpart, hfields⟩ := Option.map_eq_some_iff.mp hsecond
  obtain ⟨hmime, hraw, hfile⟩ : part.attachment.mimetype = some _ ∧
      part.attachment.rawMime = some _ ∧ part.attachment.file.isSome = true := by
    simpa using hfields
  obtain ⟨leaf, -, hof⟩ :=
    hadded part (List.mem_of_getElem? hpart) (Option.isSome_iff_ne_none.mp hfile)
  obtain ⟨hmime', hraw'⟩ := file_types hof
  have hparse : plainEnv.parseMime "multipart/alternative" =
      some { type_ := "multipart", subtype := "alternative" } := by decide +kernel
  have hlower : plainEnv.toLowercase leaf.mimetype = plainEnv.toLowercase "multipart/alternative" :=
    (Option.some.inj (hraw'.symm.trans hraw)).trans (by decide +kernel)
  exact absurd (plainEnv.parse_lowercase _ _ _ _ (hmime'.symm.trans hmime) hparse hlower)
    (by decide)

end EpsilonChat.Parts
