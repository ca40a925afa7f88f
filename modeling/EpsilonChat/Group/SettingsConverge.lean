import EpsilonChat.Lib.Join
import EpsilonChat.Lib.Register
import EpsilonChat.Group.Settings

/-!
# Convergence of name, description and avatar

Messages of members reach a chat one after the other (`receive`; the chat is loaded before each).
Name and description are kept by the greatest pair of time and text (`nameKey`, `descriptionKey`;
at equal times the SMALLER name and the GREATER description win), the avatar by the newest time.

* `texts_nameView`, `texts_descriptionView`: the first two parts of the code take the join of the
  stored pair and the pair of the message;
* `receive_eq`: an accepted avatar then puts the OLD parameters back, with its own two changed;
* `NoLostTimestamp`: so the message must not carry an accepted avatar and also raise the time of the
  name or of the description;
* `settings_converge`: **with that guard, the order of the messages does not matter.**
-/

namespace EpsilonChat.Settings
open Text Lib

/-! ## messages of members -/

/-- a message of a member, with what was said about the member list before -/
structure Incoming where
  fromId : ContactId
  betterMsg : Option BetterMsg := none
  mime : MimeMessage

def Incoming.start (m : Incoming) (db : ChatDb) : Changes :=
  { db, chat := loadFromDb db, sendEventChatModified := false, betterMsg := m.betterMsg }

/-- the chat is loaded and the message of a member applied -/
def receive (db : ChatDb) (m : Incoming) : ChatDb :=
  (applyChatNameAvatarAndDescriptionChanges m.mime m.fromId true (m.start db)).db

def nameChange (m : MimeMessage) : Option (I64 × String) :=
  if (m.getHeader .chatGroupNameChanged).isSome ∨ (groupNameTimestamp m).any (· ≠ I64.zero) then
    (newName m).map fun grpname =>
      ((groupNameTimestamp m).getD m.timestampSent, sanitizeSingleLine grpname)
  else none

def descriptionChange (m : MimeMessage) : Option (I64 × String) :=
  (newDescription m).map fun new => (descriptionTimestamp m, new)

def avatarParam (db : ChatDb) (m : MimeMessage) : Option Params :=
  m.groupAvatar.bind fun avatarAction =>
    if db.param.timestamp .avatarTimestamp ≤ m.timestampSent then
      some (setProfileImage (db.param.setI64 .avatarTimestamp m.timestampSent) avatarAction)
    else none

abbrev NameKey := I64 ×ₗ Stringᵒᵈ
abbrev DescriptionKey := I64 ×ₗ String

def nameKey (db : ChatDb) : NameKey :=
  toLex (db.param.timestamp .groupNameTimestamp, OrderDual.toDual db.name)

def descriptionKey (db : ChatDb) : DescriptionKey :=
  toLex (db.param.timestamp .groupDescriptionTimestamp, db.getChatDescription)

def nameView (db : ChatDb) : WithBot NameKey := (nameKey db : WithBot NameKey)

def descriptionView (db : ChatDb) : WithBot DescriptionKey :=
  (descriptionKey db : WithBot DescriptionKey)

def nameElt (m : MimeMessage) : WithBot NameKey :=
  (nameChange m).elim ⊥ fun c => ((toLex (c.1, OrderDual.toDual c.2) : NameKey) : WithBot NameKey)

def descriptionElt (m : MimeMessage) : WithBot DescriptionKey :=
  (descriptionChange m).elim ⊥ fun c => ((toLex c : DescriptionKey) : WithBot DescriptionKey)

/-! ## the two texts -/

theorem nameKey_lt_iff (db : ChatDb) (ts : I64) (g : String) :
    nameKey db < toLex (ts, OrderDual.toDual g) ↔
      db.param.timestamp .groupNameTimestamp < ts ∨
        (db.param.timestamp .groupNameTimestamp = ts ∧ g < db.name) := by
  rw [Prod.Lex.lt_iff]
  rfl

theorem descriptionKey_lt_iff (db : ChatDb) (ts : I64) (d : String) :
    descriptionKey db < toLex (ts, d) ↔
      db.param.timestamp .groupDescriptionTimestamp < ts ∨
        (db.param.timestamp .groupDescriptionTimestamp = ts ∧ db.getChatDescription < d) := by
  rw [Prod.Lex.lt_iff]
  rfl

section
variable (s : Changes) (ts : I64) (text : String)

theorem setName_chat : (s.setName true text ts).chat = s.chat := by
  unfold Changes.setName
  dsimp only
  split
  · split <;> rfl
  · rfl

theorem setName_db (hname : s.chat.name = s.db.name)
    (hts : s.chat.param.timestamp .groupNameTimestamp = s.db.param.timestamp .groupNameTimestamp) :
    (s.setName true text ts).db =
      if nameKey s.db < toLex (ts, OrderDual.toDual text) then
        { s.db with name := text, param := s.db.param.setI64 .groupNameTimestamp ts }
      else s.db := by
  unfold Changes.setName
  simp only [hname, hts, nameKey_lt_iff, true_and]
  by_cases h : s.db.param.timestamp .groupNameTimestamp < ts ∨
      (s.db.param.timestamp .groupNameTimestamp = ts ∧ text < s.db.name)
  · have hle : s.db.param.timestamp .groupNameTimestamp ≤ ts := by
      rcases h with h | h
      · exact h.le
      · exact h.1.le
    rw [if_pos h, if_pos h, updateTimestamp_of_le _ _ _ hle]
    by_cases e : text = s.db.name
    · rw [if_neg (fun c => c.2 e), e]
    · rw [if_pos ⟨rfl, e⟩]
  · rw [if_neg h, if_neg h]

theorem setDescription_chat : (s.setDescription true text ts).chat = s.chat := by
  unfold Changes.setDescription
  dsimp only
  split
  · split <;> rfl
  · rfl

theorem setDescription_db (hts : s.chat.param.timestamp .groupDescriptionTimestamp
      = s.db.param.timestamp .groupDescriptionTimestamp) :
    ∃ row : Option String, row.getD "" = text ∧
      (s.setDescription true text ts).db =
        if descriptionKey s.db < toLex (ts, text) then
          { s.db with
            description := row, param := s.db.param.setI64 .groupDescriptionTimestamp ts }
        else s.db := by
  unfold Changes.setDescription
  simp only [hts, descriptionKey_lt_iff, true_and]
  by_cases h : s.db.param.timestamp .groupDescriptionTimestamp < ts ∨
      (s.db.param.timestamp .groupDescriptionTimestamp = ts ∧ s.db.getChatDescription < text)
  · have hle : s.db.param.timestamp .groupDescriptionTimestamp ≤ ts := by
      rcases h with h | h
      · exact h.le
      · exact h.1.le
    rw [if_pos h, updateTimestamp_of_le _ _ _ hle]
    by_cases e : text = s.db.getChatDescription
    · refine ⟨s.db.description, e.symm, ?_⟩
      rw [if_neg (fun c => c.2 e), if_pos h]
    · refine ⟨some text, rfl, ?_⟩
      rw [if_pos ⟨rfl, e⟩, if_pos h]
  · refine ⟨some text, rfl, ?_⟩
    rw [if_neg h, if_neg h]

end

/-! ## one message -/

theorem sayOrTrash_db (s : Changes) (b : Bool) (msg : BetterMsg) :
    (s.sayOrTrash b msg).db = s.db := by
  cases b <;> rfl

theorem sayOrTrash_chat (s : Changes) (b : Bool) (msg : BetterMsg) :
    (s.sayOrTrash b msg).chat = s.chat := by
  cases b <;> rfl

theorem oldName_isSome (m : MimeMessage) (chat : Chat) :
    (oldName m chat).isSome ↔ (m.getHeader .chatGroupNameChanged).isSome ∨
      (groupNameTimestamp m).any (· ≠ I64.zero) := by
  unfold oldName
  cases h : groupNameTimestamp m with
  | none => simp
  | some t => by_cases e : t = I64.zero <;> simp [e]

theorem applyName_eq (m : MimeMessage) (fromId : ContactId) (s : Changes) :
    (applyName m fromId true s).db
        = (nameChange m).elim s.db (fun c => (s.setName true c.2 c.1).db) ∧
      (applyName m fromId true s).chat = s.chat := by
  have hold := oldName_isSome m s.chat
  unfold applyName nameChange
  cases ho : oldName m s.chat with
  | none =>
    have hc := mt hold.mpr (by rw [ho]; exact Bool.false_ne_true)
    rw [if_neg hc]
    exact ⟨rfl, rfl⟩
  | some old =>
    rw [if_pos (hold.mp (by rw [ho]; rfl))]
    cases newName m with
    | none => exact ⟨rfl, rfl⟩
    | some grpname =>
      dsimp only [Option.map_some, Option.elim_some]
      split
      · rw [sayOrTrash_db, sayOrTrash_chat, setName_chat]
        exact ⟨rfl, rfl⟩
      · rw [setName_chat]
        exact ⟨rfl, rfl⟩

theorem applyDescription_eq (m : MimeMessage) (fromId : ContactId) (s : Changes) :
    (applyDescription m fromId true s).db
        = (descriptionChange m).elim s.db (fun c => (s.setDescription true c.2 c.1).db) ∧
      (applyDescription m fromId true s).chat = s.chat := by
  unfold applyDescription descriptionChange
  cases newDescription m with
  | none => exact ⟨rfl, rfl⟩
  | some new =>
    dsimp only [Option.map_some, Option.elim_some]
    split
    · rw [sayOrTrash_db, sayOrTrash_chat, setDescription_chat]
      exact ⟨rfl, rfl⟩
    · rw [setDescription_chat]
      exact ⟨rfl, rfl⟩

theorem sayAvatar_eq (m : MimeMessage) (fromId : ContactId) (s : Changes) :
    (sayAvatar m fromId true s).db = s.db ∧ (sayAvatar m fromId true s).chat = s.chat := by
  unfold sayAvatar
  split
  · split
    · rw [sayOrTrash_db, sayOrTrash_chat]
      exact ⟨rfl, rfl⟩
    · exact ⟨rfl, rfl⟩
  · exact ⟨rfl, rfl⟩

def texts (db : ChatDb) (m : Incoming) : ChatDb :=
  (applyDescription m.mime m.fromId true (applyName m.mime m.fromId true (m.start db))).db

/-- **An accepted avatar writes back the parameters as they were loaded.** -/
theorem receive_eq (db : ChatDb) (m : Incoming) :
    receive db m
      = (avatarParam db m.mime).elim (texts db m) (fun p => { texts db m with param := p }) := by
  have hchat : (sayAvatar m.mime m.fromId true (applyDescription m.mime m.fromId true
      (applyName m.mime m.fromId true (m.start db)))).chat = loadFromDb db := by
    rw [(sayAvatar_eq _ _ _).2, (applyDescription_eq _ _ _).2, (applyName_eq _ _ _).2]
    rfl
  have hdb : (sayAvatar m.mime m.fromId true (applyDescription m.mime m.fromId true
      (applyName m.mime m.fromId true (m.start db)))).db = texts db m := (sayAvatar_eq _ _ _).1
  unfold receive applyChatNameAvatarAndDescriptionChanges applyAvatar avatarParam
  cases ha : m.mime.groupAvatar with
  | none => exact hdb
  | some a =>
    dsimp only
    rw [if_pos rfl, hchat, Option.bind_some]
    unfold Params.updateTimestamp
    show (if _ then _ else _ : Changes).db = _
    by_cases e : db.param.timestamp .avatarTimestamp ≤ m.mime.timestampSent
    · have e' : m.mime.timestampSent ≥ (loadFromDb db).param.timestamp .avatarTimestamp := e
      rw [if_pos e, if_pos e', if_pos rfl]
      show ChatDb.updateParam _ _ = _
      rw [hdb]
      rfl
    · have e' : ¬ m.mime.timestampSent ≥ (loadFromDb db).param.timestamp .avatarTimestamp := e
      rw [if_neg e, if_neg e', if_neg Bool.false_ne_true]
      exact hdb

/-! ## the keys after one message -/

theorem coe_sup_elim {α β : Type} [LinearOrder α] (o : Option β) (f : β → α) (a b : α)
    (hnone : o = none → b = a) (hsome : ∀ c, o = some c → b = if a < f c then f c else a) :
    (b : WithBot α) = (a : WithBot α) ⊔ o.elim ⊥ (fun c => ((f c : α) : WithBot α)) := by
  cases o with
  | none => rw [hnone rfl, Option.elim_none, sup_bot_eq]
  | some c =>
    rw [hsome c rfl, Option.elim_some, ← WithBot.coe_sup]
    by_cases h : a < f c
    · rw [if_pos h, sup_eq_right.mpr h.le]
    · rw [if_neg h, sup_eq_left.mpr (not_lt.mp h)]

section
variable (db : ChatDb) (m : Incoming)

def named (db : ChatDb) (m : Incoming) : ChatDb :=
  (applyName m.mime m.fromId true (m.start db)).db

theorem named_eq : named db m = (nameChange m.mime).elim db fun c =>
    if nameKey db < toLex (c.1, OrderDual.toDual c.2) then
      { db with name := c.2, param := db.param.setI64 .groupNameTimestamp c.1 }
    else db := by
  rw [named, (applyName_eq _ _ _).1]
  cases nameChange m.mime with
  | none => rfl
  | some c => exact setName_db (m.start db) c.1 c.2 rfl rfl

theorem nameKey_written (ts : I64) (name : String) :
    nameKey { db with name, param := db.param.setI64 .groupNameTimestamp ts }
      = toLex (ts, OrderDual.toDual name) := by
  unfold nameKey
  rw [Params.timestamp_setI64]

theorem named_nameView : nameView (named db m) = nameView db ⊔ nameElt m.mime := by
  refine coe_sup_elim (nameChange m.mime)
    (fun c => (toLex (c.1, OrderDual.toDual c.2) : NameKey)) (nameKey db) _ ?_ ?_
  · intro h
    rw [named_eq, h, Option.elim_none]
  · intro c h
    rw [named_eq, h, Option.elim_some]
    split
    · exact nameKey_written db c.1 c.2
    · rfl

theorem named_frame : (named db m).description = db.description ∧
    ∀ key, key ≠ .groupNameTimestamp → (named db m).param.get key = db.param.get key := by
  rw [named_eq]
  cases nameChange m.mime with
  | none => exact ⟨rfl, fun _ _ => rfl⟩
  | some c =>
    rw [Option.elim_some]
    split
    · exact ⟨rfl, fun _ hkey => Params.get_set_of_ne _ _ hkey⟩
    · exact ⟨rfl, fun _ _ => rfl⟩

theorem texts_eq : ∃ row : Option String,
    (∀ c, descriptionChange m.mime = some c → row.getD "" = c.2) ∧
      texts db m = (descriptionChange m.mime).elim (named db m) fun c =>
        if descriptionKey (named db m) < toLex c then
          { named db m with
            description := row
            param := (named db m).param.setI64 .groupDescriptionTimestamp c.1 }
        else named db m := by
  rw [texts, (applyDescription_eq _ _ _).1]
  cases descriptionChange m.mime with
  | none => exact ⟨none, fun c h => absurd h (by simp), rfl⟩
  | some c =>
    have hts : (applyName m.mime m.fromId true (m.start db)).chat.param.timestamp
        .groupDescriptionTimestamp = (named db m).param.timestamp .groupDescriptionTimestamp := by
      rw [(applyName_eq _ _ _).2]
      exact Params.timestamp_congr ((named_frame db m).2 _ (by decide)).symm
    obtain ⟨row, hrow, h⟩ := setDescription_db _ c.1 c.2 hts
    refine ⟨row, ?_, h⟩
    intro c' hc
    rw [← Option.some.inj hc]
    exact hrow

theorem texts_descriptionView :
    descriptionView (texts db m) = descriptionView db ⊔ descriptionElt m.mime := by
  obtain ⟨row, hrow, h⟩ := texts_eq db m
  have hkey : descriptionKey (named db m) = descriptionKey db := by
    unfold descriptionKey ChatDb.getChatDescription
    rw [(named_frame db m).1, Params.timestamp_congr ((named_frame db m).2 _ (by decide))]
  rw [hkey] at h
  refine coe_sup_elim _ (fun c => toLex c) _ _ ?_ ?_
  · intro hc
    rw [h, hc, Option.elim_none, hkey]
  · intro c hc
    rw [h, hc, Option.elim_some]
    split
    · unfold descriptionKey ChatDb.getChatDescription
      rw [Params.timestamp_setI64]
      dsimp only
      rw [hrow c hc]
    · exact hkey

theorem texts_frame : (texts db m).name = (named db m).name ∧
    ∀ key, key ≠ .groupDescriptionTimestamp →
      (texts db m).param.get key = (named db m).param.get key := by
  obtain ⟨row, _, h⟩ := texts_eq db m
  rw [h]
  cases descriptionChange m.mime with
  | none => exact ⟨rfl, fun _ _ => rfl⟩
  | some c =>
    rw [Option.elim_some]
    split
    · exact ⟨rfl, fun _ hkey => Params.get_set_of_ne _ _ hkey⟩
    · exact ⟨rfl, fun _ _ => rfl⟩

theorem texts_nameView : nameView (texts db m) = nameView db ⊔ nameElt m.mime := by
  rw [← named_nameView]
  unfold nameView nameKey
  rw [(texts_frame db m).1, Params.timestamp_congr ((texts_frame db m).2 _ (by decide))]

end

/-! ## times are kept -/

def nameAccepted (db : ChatDb) (m : MimeMessage) : Option I64 :=
  (nameChange m).bind fun c =>
    if nameKey db < toLex (c.1, OrderDual.toDual c.2) then some c.1 else none

def descriptionAccepted (db : ChatDb) (m : MimeMessage) : Option I64 :=
  (descriptionChange m).bind fun c => if descriptionKey db < toLex c then some c.1 else none

/-- the times stored after the message are at least those it was accepted with -/
def KeepsTimestamps (db : ChatDb) (m : Incoming) : Prop :=
  (∀ ts, nameAccepted db m.mime = some ts →
      ts ≤ (receive db m).param.timestamp .groupNameTimestamp) ∧
    ∀ ts, descriptionAccepted db m.mime = some ts →
      ts ≤ (receive db m).param.timestamp .groupDescriptionTimestamp

/-- a message with an accepted avatar has no newer name and no newer description than the chat -/
def NoLostTimestamp (db : ChatDb) (m : Incoming) : Prop :=
  (avatarParam db m.mime).isSome →
    (∀ c, nameChange m.mime = some c → c.1 ≤ db.param.timestamp .groupNameTimestamp) ∧
      ∀ c, descriptionChange m.mime = some c →
        c.1 ≤ db.param.timestamp .groupDescriptionTimestamp

section
variable {db : ChatDb} {m : MimeMessage} {ts : I64}

theorem avatarParam_get {p : Params} (h : avatarParam db m = some p) (key : Param)
    (hts : key ≠ .avatarTimestamp) (himg : key ≠ .profileImage) : p.get key = db.param.get key := by
  obtain ⟨a, _, h⟩ := Option.bind_eq_some_iff.mp h
  obtain ⟨_, he⟩ := Option.ite_none_right_eq_some.mp h
  cases he
  have hset := Params.get_set_of_ne db.param m.timestampSent.print hts
  cases a with
  | delete => exact (Params.get_remove_of_ne _ himg).trans hset
  | change img => exact (Params.get_set_of_ne _ _ himg).trans hset

theorem accepted_eq_some {o : Option (I64 × String)} (newer : I64 → String → Prop)
    [∀ ts text, Decidable (newer ts text)] :
    (o.bind fun c => if newer c.1 c.2 then some c.1 else none) = some ts ↔
      ∃ text, o = some (ts, text) ∧ newer ts text := by
  rw [Option.bind_eq_some_iff]
  refine ⟨?_, ?_⟩
  · intro ⟨c, hc, h⟩
    obtain ⟨hlt, he⟩ := Option.ite_none_right_eq_some.mp h
    cases he
    exact ⟨c.2, hc, hlt⟩
  · intro ⟨text, hc, hlt⟩
    exact ⟨(ts, text), hc, if_pos hlt⟩

theorem nameAccepted_eq_some :
    nameAccepted db m = some ts ↔
      ∃ g, nameChange m = some (ts, g) ∧ nameKey db < toLex (ts, OrderDual.toDual g) :=
  accepted_eq_some fun ts g => nameKey db < toLex (ts, OrderDual.toDual g)

theorem descriptionAccepted_eq_some :
    descriptionAccepted db m = some ts ↔
      ∃ d, descriptionChange m = some (ts, d) ∧ descriptionKey db < toLex (ts, d) :=
  accepted_eq_some fun ts d => descriptionKey db < toLex (ts, d)

end

theorem texts_keeps (db : ChatDb) (m : Incoming) :
    (∀ ts, nameAccepted db m.mime = some ts →
        ts ≤ (texts db m).param.timestamp .groupNameTimestamp) ∧
      ∀ ts, descriptionAccepted db m.mime = some ts →
        ts ≤ (texts db m).param.timestamp .groupDescriptionTimestamp := by
  refine ⟨?_, ?_⟩
  · intro ts h
    obtain ⟨g, hc, _⟩ := nameAccepted_eq_some.mp h
    have helt : nameElt m.mime ≤ nameView (texts db m) := by
      rw [texts_nameView]; exact le_sup_right
    rw [nameElt, hc, Option.elim_some] at helt
    exact Prod.Lex.monotone_fst _ _ (WithBot.coe_le_coe.mp helt)
  · intro ts h
    obtain ⟨d, hc, _⟩ := descriptionAccepted_eq_some.mp h
    have helt : descriptionElt m.mime ≤ descriptionView (texts db m) := by
      rw [texts_descriptionView]; exact le_sup_right
    rw [descriptionElt, hc, Option.elim_some] at helt
    exact Prod.Lex.monotone_fst _ _ (WithBot.coe_le_coe.mp helt)

theorem keeps_iff (db : ChatDb) (m : Incoming) : KeepsTimestamps db m ↔ NoLostTimestamp db m := by
  unfold KeepsTimestamps NoLostTimestamp
  rw [receive_eq]
  cases ha : avatarParam db m.mime with
  | none => exact iff_of_true (texts_keeps db m) (fun h => absurd h Bool.false_ne_true)
  | some p =>
    have hn := Params.timestamp_congr
      (avatarParam_get ha .groupNameTimestamp (by decide) (by decide))
    have hd := Params.timestamp_congr
      (avatarParam_get ha .groupDescriptionTimestamp (by decide) (by decide))
    rw [Option.elim_some, hn, hd]
    refine ⟨?_, ?_⟩
    · intro ⟨h1, h2⟩ _
      refine ⟨fun c hc => not_lt.mp fun hlt => ?_, fun c hc => not_lt.mp fun hlt => ?_⟩
      · have hacc := nameAccepted_eq_some.mpr ⟨c.2, hc, (nameKey_lt_iff _ _ _).mpr (.inl hlt)⟩
        exact absurd (h1 c.1 hacc) (not_le.mpr hlt)
      · have hacc := descriptionAccepted_eq_some.mpr
          ⟨c.2, hc, (descriptionKey_lt_iff _ _ _).mpr (.inl hlt)⟩
        exact absurd (h2 c.1 hacc) (not_le.mpr hlt)
    · intro h
      obtain ⟨h1, h2⟩ := h rfl
      refine ⟨fun ts hts => ?_, fun ts hts => ?_⟩
      · obtain ⟨g, hc, _⟩ := nameAccepted_eq_some.mp hts
        exact h1 _ hc
      · obtain ⟨d, hc, _⟩ := descriptionAccepted_eq_some.mp hts
        exact h2 _ hc

/-! ## joins -/

/-- a join with pairs that are not newer keeps the time: the text of the join with the OLD time is
the join -/
theorem coe_sup_of_fst_le {β γ : Type} [LinearOrder β] {o : Option γ} {f : γ → I64 ×ₗ β}
    {a b : I64 ×ₗ β}
    (h : (b : WithBot (I64 ×ₗ β)) = (a : WithBot (I64 ×ₗ β)) ⊔ o.elim ⊥ fun c => (f c : WithBot _))
    (hle : ∀ c, o = some c → (ofLex (f c)).1 ≤ (ofLex a).1) :
    ((toLex ((ofLex a).1, (ofLex b).2) : I64 ×ₗ β) : WithBot (I64 ×ₗ β))
      = (a : WithBot (I64 ×ₗ β)) ⊔ o.elim ⊥ fun c => (f c : WithBot _) := by
  have hfst : (ofLex a).1 = (ofLex b).1 := by
    cases o with
    | none =>
      rw [Option.elim_none, sup_bot_eq] at h
      rw [WithBot.coe_inj.mp h]
    | some c =>
      rw [Option.elim_some, ← WithBot.coe_sup] at h
      rw [WithBot.coe_inj.mp h]
      rcases le_total a (f c) with hac | hca
      · rw [sup_eq_right.mpr hac]
        exact le_antisymm (Prod.Lex.monotone_fst _ _ hac) (hle c rfl)
      · rw [sup_eq_left.mpr hca]
  rw [← h, hfst]
  rfl

theorem receive_nameView (db : ChatDb) (m : Incoming) (h : NoLostTimestamp db m) :
    nameView (receive db m) = nameView db ⊔ nameElt m.mime := by
  have htexts := texts_nameView db m
  rw [receive_eq]
  cases ha : avatarParam db m.mime with
  | none => exact htexts
  | some p =>
    obtain ⟨hle, _⟩ := h (by rw [ha]; rfl)
    have hp := Params.timestamp_congr
      (avatarParam_get ha .groupNameTimestamp (by decide) (by decide))
    unfold nameView nameKey
    rw [Option.elim_some, hp]
    exact coe_sup_of_fst_le (a := nameKey db) (b := nameKey (texts db m)) htexts hle

theorem receive_descriptionView (db : ChatDb) (m : Incoming) (h : NoLostTimestamp db m) :
    descriptionView (receive db m) = descriptionView db ⊔ descriptionElt m.mime := by
  have htexts := texts_descriptionView db m
  rw [receive_eq]
  cases ha : avatarParam db m.mime with
  | none => exact htexts
  | some p =>
    obtain ⟨_, hle⟩ := h (by rw [ha]; rfl)
    have hp := Params.timestamp_congr
      (avatarParam_get ha .groupDescriptionTimestamp (by decide) (by decide))
    unfold descriptionView descriptionKey
    rw [Option.elim_some, hp]
    exact coe_sup_of_fst_le (a := descriptionKey db) (b := descriptionKey (texts db m)) htexts hle

theorem nameView_joinView :
    JoinView receive NoLostTimestamp nameView (fun m => nameElt m.mime) := ⟨receive_nameView⟩

theorem descriptionView_joinView :
    JoinView receive NoLostTimestamp descriptionView (fun m => descriptionElt m.mime) :=
  ⟨receive_descriptionView⟩

/-! ## the avatar -/

def avatarView (db : ChatDb) : I64 × Option String :=
  (db.param.timestamp .avatarTimestamp, db.param.get .profileImage)

def profileImage : AvatarAction → Option String
  | .delete => none
  | .change img => some img

def avatarWrite (m : MimeMessage) : Option (I64 × Option String) :=
  m.groupAvatar.map fun a => (m.timestampSent, profileImage a)

theorem setProfileImage_view (p : Params) (a : AvatarAction) :
    (setProfileImage p a).get .profileImage = profileImage a ∧
      (setProfileImage p a).get .avatarTimestamp = p.get .avatarTimestamp := by
  cases a with
  | delete => exact ⟨Params.get_remove_self _ _, Params.get_remove_of_ne _ (by decide)⟩
  | change img => exact ⟨Params.get_set_self _ _ _, Params.get_set_of_ne _ _ (by decide)⟩

theorem texts_avatarView (db : ChatDb) (m : Incoming) :
    avatarView (texts db m) = avatarView db := by
  unfold avatarView
  have hts := ((texts_frame db m).2 .avatarTimestamp (by decide)).trans ((named_frame db m).2 _ (by decide))
  have himg := ((texts_frame db m).2 .profileImage (by decide)).trans ((named_frame db m).2 _ (by decide))
  rw [himg, Params.timestamp_congr hts]

theorem receive_avatarView (db : ChatDb) (m : Incoming) :
    avatarView (receive db m)
      = (avatarWrite m.mime).elim (avatarView db) (write (avatarView db)) := by
  rw [receive_eq]
  unfold avatarWrite avatarParam
  cases m.mime.groupAvatar with
  | none => exact texts_avatarView db m
  | some a =>
    rw [Option.bind_some, Option.map_some, Option.elim_some]
    by_cases h : db.param.timestamp .avatarTimestamp ≤ m.mime.timestampSent
    · rw [if_pos h, Option.elim_some, write_of_le h]
      obtain ⟨himg, hts⟩ := setProfileImage_view
        (db.param.setI64 .avatarTimestamp m.mime.timestampSent) a
      unfold avatarView
      rw [himg, Params.timestamp_congr hts, Params.timestamp_setI64]
    · rw [if_neg h, Option.elim_none, write_of_lt (not_le.mp h)]
      exact texts_avatarView db m

theorem run_avatarView (db : ChatDb) (l : List Incoming) :
    avatarView (l.foldl receive db)
      = (l.filterMap fun m => avatarWrite m.mime).foldl write (avatarView db) := by
  induction l generalizing db with
  | nil => rfl
  | cons m l ih =>
    rw [List.foldl_cons, ih, receive_avatarView]
    cases h : avatarWrite m.mime with
    | none => simp only [List.filterMap_cons, h, Option.elim_none]
    | some u => simp only [List.filterMap_cons, h, Option.elim_some, List.foldl_cons]

/-- messages with avatars that were sent at one time have one avatar -/
def AvatarTimesDistinct (l : List Incoming) : Prop :=
  ∀ m ∈ l, ∀ m' ∈ l, m.mime.groupAvatar.isSome → m'.mime.groupAvatar.isSome →
    m.mime.timestampSent = m'.mime.timestampSent → m.mime.groupAvatar = m'.mime.groupAvatar

theorem avatarView_converge (db : ChatDb) (l l' : List Incoming) (hmem : ∀ m, m ∈ l ↔ m ∈ l')
    (h : AvatarTimesDistinct l) :
    avatarView (l.foldl receive db) = avatarView (l'.foldl receive db) := by
  rw [run_avatarView, run_avatarView]
  refine write_converge _ _ _ ?_ ?_
  · intro u
    simp only [List.mem_filterMap, hmem]
  · intro u hu v hv e
    obtain ⟨m, hm, hmu⟩ := List.mem_filterMap.mp hu
    obtain ⟨m', hm', hmv⟩ := List.mem_filterMap.mp hv
    obtain ⟨a, ha, rfl⟩ := Option.map_eq_some_iff.mp hmu
    obtain ⟨a', ha', rfl⟩ := Option.map_eq_some_iff.mp hmv
    have hsame := h m hm m' hm' (by rw [ha]; rfl) (by rw [ha']; rfl) e
    rw [ha, ha'] at hsame
    rw [Option.some.inj hsame]
    exact Prod.ext e rfl

/-- **Messages that keep their accepted times, in any order, leave the same name, description and
avatar; and a message keeps its accepted times iff it meets the guard.** -/
theorem settings_converge (db : ChatDb) (l l' : List Incoming) (hmem : ∀ m, m ∈ l ↔ m ∈ l')
    (h : RunOk receive NoLostTimestamp db l) (h' : RunOk receive NoLostTimestamp db l') :
    (∀ c m, KeepsTimestamps c m ↔ NoLostTimestamp c m) ∧
      (l.foldl receive db).name = (l'.foldl receive db).name ∧
      (l.foldl receive db).getChatDescription = (l'.foldl receive db).getChatDescription ∧
      (AvatarTimesDistinct l →
        (l.foldl receive db).param.get .profileImage
          = (l'.foldl receive db).param.get .profileImage) := by
  have hname := WithBot.coe_inj.mp (nameView_joinView.converge db l l' h h' hmem)
  have hdesc := WithBot.coe_inj.mp (descriptionView_joinView.converge db l l' h h' hmem)
  refine ⟨keeps_iff, ?_, ?_, ?_⟩
  · exact congrArg (fun k : NameKey => OrderDual.ofDual (ofLex k).2) hname
  · exact congrArg (fun k : DescriptionKey => (ofLex k).2) hdesc
  · intro havatar
    exact congrArg Prod.snd (avatarView_converge db l l' hmem havatar)

/-! ## a lost time -/

def unnamedGroup : ChatDb where
  typ := .group
  name := "G"
  param := Params.new
  description := none

def nameAt100 (avatar : Option AvatarAction) : Incoming where
  fromId := 10
  mime := {
    headers := headersOf [(.chatGroupName, "X"), (.chatGroupNameTimestamp, "100")]
    groupAvatar := avatar
    timestampSent := ⟨100, by decide⟩ }

def nameAt50 : Incoming where
  fromId := 11
  mime := {
    headers := headersOf [(.chatGroupName, "Y"), (.chatGroupNameTimestamp, "50")]
    timestampSent := ⟨50, by decide⟩ }

theorem settings_converge_names :
    (∀ c m, KeepsTimestamps c m ↔ NoLostTimestamp c m) ∧
      ([nameAt100 none, nameAt50].foldl receive unnamedGroup).name
        = ([nameAt50, nameAt100 none].foldl receive unnamedGroup).name ∧
      ([nameAt100 none, nameAt50].foldl receive unnamedGroup).getChatDescription
        = ([nameAt50, nameAt100 none].foldl receive unnamedGroup).getChatDescription ∧
      (AvatarTimesDistinct [nameAt100 none, nameAt50] →
        ([nameAt100 none, nameAt50].foldl receive unnamedGroup).param.get .profileImage
          = ([nameAt50, nameAt100 none].foldl receive unnamedGroup).param.get .profileImage) :=
  settings_converge unnamedGroup _ _
    (fun m => by simp [or_comm])
    ⟨fun h => absurd h Bool.false_ne_true, fun h => absurd h Bool.false_ne_true, trivial⟩
    ⟨fun h => absurd h Bool.false_ne_true, fun h => absurd h Bool.false_ne_true, trivial⟩

/-- The name of time 100 comes with an avatar: its time is lost, and the older name of time 50 wins
if it arrives later. -/
theorem name_time_lost :
    ([nameAt100 (some (.change "a.png"))].foldl receive unnamedGroup).param.timestamp
        .groupNameTimestamp = I64.zero ∧
      ([nameAt100 (some (.change "a.png")), nameAt50].foldl receive unnamedGroup).name = "Y" ∧
      ([nameAt50, nameAt100 (some (.change "a.png"))].foldl receive unnamedGroup).name = "X" := by
  decide +kernel

end EpsilonChat.Settings
