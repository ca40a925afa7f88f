import EpsilonChat.Mime.Headers

/-!
# Header protection

Two messages have the same signed inner part and different outer headers.  What of the outer
headers can be seen in the result?

* `fromBytesHeaders_protected`: nothing, in the protected headers: the header map holds those of the
  inner part only;
* `fromBytesHeaders_recipients`, `_pastMembers`, `_disposition`: but the three variables BESIDE the
  map keep the outer value where the inner part has none;
* `header_protection_iff`: **so the two results agree iff each of the three is set by the inner part
  or has the same outer value.**
-/

namespace EpsilonChat.Mime

section
variable (P : Mailparse)

/-! ## the loop of `merge_headers` -/

/-- the last readable Chat-Disposition-Notification-To header; `some none` if it does not have
exactly one address -/
def dispositionNotificationTo (fields : List MailHeader) : Option (Option SingleInfo) :=
  fields.foldl (fun last field =>
    if P.toLowercase field.key = HeaderDef.chatDispositionNotificationTo.getHeadername then
      ((P.addrparseHeader field).map extractSingleInfo).or last
    else last) none

theorem mergeField_headers_congr (s s' : HeaderState) (field : MailHeader) (k : String)
    (h : s.headers k = s'.headers k) :
    (mergeField P s field).headers k = (mergeField P s' field).headers k := by
  unfold mergeField
  dsimp only
  split
  · cases P.addrparseHeader field with
    | none => exact h
    | some addrlist => exact h
  · by_cases e : k = P.toLowercase field.key
    · rw [e]
      dsimp only
      rw [Function.update_self, Function.update_self]
    · dsimp only
      rw [Function.update_of_ne e, Function.update_of_ne e, h]

theorem mergeFields_headers_congr (fields : List MailHeader) (s s' : HeaderState) (k : String)
    (h : s.headers k = s'.headers k) :
    (fields.foldl (mergeField P) s).headers k = (fields.foldl (mergeField P) s').headers k := by
  induction fields generalizing s s' with
  | nil => exact h
  | cons field fields ih => exact ih _ _ (mergeField_headers_congr P s s' field k h)

theorem mergeField_frame (s : HeaderState) (field : MailHeader) :
    (mergeField P s field).recipients = s.recipients ∧
      (mergeField P s field).pastMembers = s.pastMembers := by
  unfold mergeField
  dsimp only
  split
  · cases P.addrparseHeader field with
    | none => exact ⟨rfl, rfl⟩
    | some addrlist => exact ⟨rfl, rfl⟩
  · exact ⟨rfl, rfl⟩

theorem mergeFields_frame (fields : List MailHeader) (s : HeaderState) :
    (fields.foldl (mergeField P) s).recipients = s.recipients ∧
      (fields.foldl (mergeField P) s).pastMembers = s.pastMembers := by
  induction fields generalizing s with
  | nil => exact ⟨rfl, rfl⟩
  | cons field fields ih =>
    obtain ⟨hr, hp⟩ := ih (mergeField P s field)
    obtain ⟨hr', hp'⟩ := mergeField_frame P s field
    exact ⟨hr.trans hr', hp.trans hp'⟩

theorem mergeFields_disposition (fields : List MailHeader) (s : HeaderState) :
    (fields.foldl (mergeField P) s).chatDispositionNotificationTo
      = (dispositionNotificationTo P fields).getD s.chatDispositionNotificationTo := by
  -- the two loops agree for every value found so far
  suffices h : ∀ (last : Option (Option SingleInfo)) (s' : HeaderState),
      s'.chatDispositionNotificationTo = last.getD s.chatDispositionNotificationTo →
      (fields.foldl (mergeField P) s').chatDispositionNotificationTo
        = (fields.foldl (fun last field =>
            if P.toLowercase field.key
                = HeaderDef.chatDispositionNotificationTo.getHeadername then
              ((P.addrparseHeader field).map extractSingleInfo).or last
            else last) last).getD s.chatDispositionNotificationTo from h none s rfl
  induction fields with
  | nil => exact fun last s' h => h
  | cons field fields ih =>
    intro last s' h
    rw [List.foldl_cons, List.foldl_cons]
    refine ih _ _ ?_
    unfold mergeField
    dsimp only
    split
    · cases P.addrparseHeader field with
      | none => exact h
      | some addrlist => rfl
    · exact h

/-! ## one part -/

variable (s : HeaderState) (part : ParsedMail)

theorem mergeHeaders_recipients : (mergeHeaders P s part).recipients
    = if (getRecipients P part.headers).isEmpty then s.recipients
      else getRecipients P part.headers := by
  unfold mergeHeaders
  dsimp only
  rw [(mergeFields_frame P _ _).1]

theorem mergeHeaders_pastMembers : (mergeHeaders P s part).pastMembers
    = if (getPastMembers P part.headers).isEmpty then s.pastMembers
      else getPastMembers P part.headers := by
  unfold mergeHeaders
  dsimp only
  rw [(mergeFields_frame P _ _).2]

theorem mergeHeaders_disposition : (mergeHeaders P s part).chatDispositionNotificationTo
    = (dispositionNotificationTo P part.headers).getD s.chatDispositionNotificationTo := by
  unfold mergeHeaders
  exact mergeFields_disposition P _ _

theorem mergeHeaders_protected (s' : HeaderState) (k : String) (hk : isProtected k) :
    (mergeHeaders P s part).headers k = (mergeHeaders P s' part).headers k := by
  unfold mergeHeaders
  refine mergeFields_headers_congr P _ _ _ _ ?_
  have hdrop : (part.hp || isProtected k) = true := by rw [hk, Bool.or_true]
  show (if (part.hp || isProtected k) = true then none else s.headers k)
    = if (part.hp || isProtected k) = true then none else s'.headers k
  rw [if_pos hdrop, if_pos hdrop]

end

/-! ## signed messages -/

section
variable {P : Mailparse} {outer inner : ParsedMail} {r : HeaderState}

theorem outerHeaders_ok {so : HeaderState × SingleInfo} (h : outerHeaders P outer = .ok so) :
    so.1.recipients = (mergeHeaders P {} outer).recipients ∧
      so.1.pastMembers = (mergeHeaders P {} outer).pastMembers ∧
      so.1.chatDispositionNotificationTo
        = (mergeHeaders P {} outer).chatDispositionNotificationTo := by
  unfold outerHeaders at h
  dsimp only at h
  split at h
  · cases h
  · split at h
    · cases h
    · cases h
      exact ⟨rfl, rfl, rfl⟩

def withoutUnsigned (s : HeaderState) : HeaderState :=
  { s with
    headers := removeHeader (removeHeader s.headers "subject") "list-id"
    from_ := none }

theorem innerHeaders_ok {s : HeaderState} {from_ : SingleInfo}
    (h : innerHeaders P s from_ inner true = .ok r) :
    ∃ from_, r = { mergeHeaders P (withoutUnsigned s) inner with from_ } := by
  unfold innerHeaders at h
  dsimp only at h
  rw [if_pos rfl, if_pos rfl] at h
  split at h
  · cases h
    exact ⟨_, rfl⟩
  · split at h
    · cases h
      exact ⟨_, rfl⟩
    · cases h

theorem fromBytesHeaders_ok (h : fromBytesHeaders P outer (some inner) true = .ok r) :
    ∃ s : HeaderState, s.recipients = (mergeHeaders P {} outer).recipients ∧
      s.pastMembers = (mergeHeaders P {} outer).pastMembers ∧
      s.chatDispositionNotificationTo
        = (mergeHeaders P {} outer).chatDispositionNotificationTo ∧
      ∃ from_, r = { mergeHeaders P s inner with from_ } := by
  unfold fromBytesHeaders at h
  cases ho : outerHeaders P outer with
  | error e => rw [ho] at h; cases h
  | ok so =>
    rw [ho] at h
    obtain ⟨hr, hp, hd⟩ := outerHeaders_ok ho
    exact ⟨withoutUnsigned so.1, hr, hp, hd, innerHeaders_ok h⟩

theorem ite_isEmpty_nil {α : Type} (l : List α) : (if l.isEmpty then [] else l) = l := by
  cases l <;> rfl

theorem fromBytesHeaders_recipients (h : fromBytesHeaders P outer (some inner) true = .ok r) :
    r.recipients = if (getRecipients P inner.headers).isEmpty then getRecipients P outer.headers
      else getRecipients P inner.headers := by
  obtain ⟨s, hs, _, _, _, rfl⟩ := fromBytesHeaders_ok h
  dsimp only
  rw [mergeHeaders_recipients, hs, mergeHeaders_recipients]
  exact congrArg (ite _ · _) (ite_isEmpty_nil _)

theorem fromBytesHeaders_pastMembers (h : fromBytesHeaders P outer (some inner) true = .ok r) :
    r.pastMembers = if (getPastMembers P inner.headers).isEmpty then
      getPastMembers P outer.headers else getPastMembers P inner.headers := by
  obtain ⟨s, _, hs, _, _, rfl⟩ := fromBytesHeaders_ok h
  dsimp only
  rw [mergeHeaders_pastMembers, hs, mergeHeaders_pastMembers]
  exact congrArg (ite _ · _) (ite_isEmpty_nil _)

theorem fromBytesHeaders_disposition (h : fromBytesHeaders P outer (some inner) true = .ok r) :
    r.chatDispositionNotificationTo = (dispositionNotificationTo P inner.headers).getD
      ((dispositionNotificationTo P outer.headers).getD none) := by
  obtain ⟨s, _, _, hs, _, rfl⟩ := fromBytesHeaders_ok h
  dsimp only
  rw [mergeHeaders_disposition, hs, mergeHeaders_disposition]

theorem fromBytesHeaders_protected {outer' : ParsedMail} {r' : HeaderState}
    (h : fromBytesHeaders P outer (some inner) true = .ok r)
    (h' : fromBytesHeaders P outer' (some inner) true = .ok r') (k : String)
    (hk : isProtected k) : r.headers k = r'.headers k := by
  obtain ⟨s, _, _, _, _, rfl⟩ := fromBytesHeaders_ok h
  obtain ⟨s', _, _, _, _, rfl⟩ := fromBytesHeaders_ok h'
  exact mergeHeaders_protected P s inner s' k hk

/-! ## non-interference -/

/-- the results have the same protected headers, recipients, past members and address for
notifications -/
def SameProtected (r r' : HeaderState) : Prop :=
  (∀ k, isProtected k → r.headers k = r'.headers k) ∧ r.recipients = r'.recipients ∧
    r.pastMembers = r'.pastMembers ∧
    r.chatDispositionNotificationTo = r'.chatDispositionNotificationTo

theorem ite_isEmpty_eq_iff {α : Type} (l x y : List α) :
    (if l.isEmpty then x else l) = (if l.isEmpty then y else l) ↔ l ≠ [] ∨ x = y := by
  cases l with
  | nil => exact ⟨.inr, fun h => h.resolve_left fun h => h rfl⟩
  | cons a l => exact iff_of_true rfl (.inl (List.cons_ne_nil a l))

theorem getD_eq_getD_iff {α : Type} (o : Option α) (x y : α) :
    o.getD x = o.getD y ↔ o.isSome ∨ x = y := by
  cases o with
  | none => exact ⟨.inr, fun h => h.resolve_left Bool.false_ne_true⟩
  | some a => exact iff_of_true rfl (.inl rfl)

/-- **Two messages with the same signed inner part give the same protected data iff each of the
three variables beside the header map is set by the inner part or has the same outer value.** -/
theorem header_protection_iff (outer' : ParsedMail) (r' : HeaderState)
    (h : fromBytesHeaders P outer (some inner) true = .ok r)
    (h' : fromBytesHeaders P outer' (some inner) true = .ok r') :
    SameProtected r r' ↔
      (getRecipients P inner.headers ≠ [] ∨
          getRecipients P outer.headers = getRecipients P outer'.headers) ∧
        (getPastMembers P inner.headers ≠ [] ∨
          getPastMembers P outer.headers = getPastMembers P outer'.headers) ∧
        ((dispositionNotificationTo P inner.headers).isSome ∨
          (dispositionNotificationTo P outer.headers).getD none
            = (dispositionNotificationTo P outer'.headers).getD none) := by
  unfold SameProtected
  rw [fromBytesHeaders_recipients h, fromBytesHeaders_recipients h',
    fromBytesHeaders_pastMembers h, fromBytesHeaders_pastMembers h',
    fromBytesHeaders_disposition h, fromBytesHeaders_disposition h',
    ite_isEmpty_eq_iff, ite_isEmpty_eq_iff, getD_eq_getD_iff]
  exact and_iff_right (fromBytesHeaders_protected h h')

end

/-! ## outer headers that shine through -/

def plainParse : Mailparse where
  toLowercase := id
  addrparseHeader h := some [.single { addr := h.value }]

def innerText : ParsedMail := { headers := [⟨"from", "a@x"⟩, ⟨"chat-version", "1.0"⟩] }

def innerTo : ParsedMail := { headers := [⟨"from", "a@x"⟩, ⟨"to", "b@x"⟩] }

def outerTo (addr : String) : ParsedMail where
  headers := [⟨"from", "a@x"⟩, ⟨"to", addr⟩, ⟨"chat-group-past-members", addr⟩,
    ⟨"chat-disposition-notification-to", addr⟩]

theorem header_protection_recipients :
    ∃ r r', fromBytesHeaders plainParse (outerTo "b@x") (some innerTo) true = .ok r ∧
      fromBytesHeaders plainParse (outerTo "evil@x") (some innerTo) true = .ok r' ∧
      (SameProtected r r' ↔
        (getRecipients plainParse innerTo.headers ≠ [] ∨
            getRecipients plainParse (outerTo "b@x").headers
              = getRecipients plainParse (outerTo "evil@x").headers) ∧
          (getPastMembers plainParse innerTo.headers ≠ [] ∨
            getPastMembers plainParse (outerTo "b@x").headers
              = getPastMembers plainParse (outerTo "evil@x").headers) ∧
          ((dispositionNotificationTo plainParse innerTo.headers).isSome ∨
            (dispositionNotificationTo plainParse (outerTo "b@x").headers).getD none
              = (dispositionNotificationTo plainParse (outerTo "evil@x").headers).getD none)) :=
  ⟨_, _, rfl, rfl, header_protection_iff _ _ rfl rfl⟩

/-- The inner part has no recipients, no past members and no address for notifications; the values
of the outer headers, which anyone on the way can change, are taken for all three. -/
theorem outer_headers_shine_through :
    ∃ r r', fromBytesHeaders plainParse (outerTo "b@x") (some innerText) true = .ok r ∧
      fromBytesHeaders plainParse (outerTo "evil@x") (some innerText) true = .ok r' ∧
      r.recipients = [{ addr := "b@x" }] ∧ r'.recipients = [{ addr := "evil@x" }] ∧
      r.pastMembers = [{ addr := "b@x" }] ∧ r'.pastMembers = [{ addr := "evil@x" }] ∧
      r.chatDispositionNotificationTo = some { addr := "b@x" } ∧
      r'.chatDispositionNotificationTo = some { addr := "evil@x" } :=
  ⟨_, _, rfl, rfl, by decide +kernel, by decide +kernel, by decide +kernel, by decide +kernel,
    by decide +kernel, by decide +kernel⟩

end EpsilonChat.Mime
