import EpsilonChat.Base.Trim

/-!
# Names on a single line

`sanitize_single_line` turns newlines into spaces, trims, and THEN removes characters that change the
writing direction: embeddings always, isolates if they are not balanced.  The order matters: a
removed character at the end of the trimmed text may have protected a space.

    U+202A, space, `a`   ↦   space, `a`   ↦   `a`

* `isolatesValid_iff`: the counting loop accepts the balanced texts of depth at most 125;
* `sanitizeSingleLine_eq`: what is removed is decided by the isolates of the input;
* `trimmed_iff`: the result is trimmed iff no removed character protects a space;
* **`single_line_clean_iff`**: the result is clean, and stable, iff that is so.
-/

namespace EpsilonChat.Text

/-! ## isolates -/

def isolateStep (c : Char) : ℤ :=
  if isolateCharacters.contains c then 1 else if c = popIsolateCharacter then -1 else 0

def nesting (cs : List Char) : ℤ := (cs.map isolateStep).sum

/-- no prefix closes more than it opened or is nested deeper than 125, and at the end all isolates
are closed -/
structure BalancedIsolates (cs : List Char) : Prop where
  closed : nesting cs = 0
  depth : ∀ p, p <+: cs → 0 ≤ nesting p ∧ nesting p ≤ 125

theorem nesting_cons (c : Char) (cs : List Char) : nesting (c :: cs) = isolateStep c + nesting cs := by
  rw [nesting, List.map_cons, List.sum_cons, nesting]

theorem isolatesValid_cons (n : ℤ) (c : Char) (cs : List Char) :
    isolateCharactersAreValid n (c :: cs) =
      if n + isolateStep c < 0 ∨ n + isolateStep c > 125 then false
      else isolateCharactersAreValid (n + isolateStep c) cs := by
  have hstep : (if isolateCharacters.contains c then n + 1
      else if c = popIsolateCharacter then n - 1 else n) = n + isolateStep c := by
    unfold isolateStep
    split
    · rfl
    · split <;> omega
  rw [isolateCharactersAreValid]
  simp only [hstep, Bool.or_eq_true, decide_eq_true_eq]

theorem isolatesValid_from {n : ℤ} (hn : 0 ≤ n ∧ n ≤ 125) (cs : List Char) :
    isolateCharactersAreValid n cs = true ↔
      n + nesting cs = 0 ∧ ∀ p, p <+: cs → 0 ≤ n + nesting p ∧ n + nesting p ≤ 125 := by
  induction cs generalizing n with
  | nil =>
    have hnil : nesting [] = 0 := rfl
    rw [isolateCharactersAreValid, beq_iff_eq, hnil, add_zero]
    refine ⟨fun h => ⟨h, fun p hp => ?_⟩, fun h => h.1⟩
    rw [List.prefix_nil.mp hp, hnil, add_zero]
    exact hn
  | cons c cs ih =>
    rw [isolatesValid_cons, nesting_cons, ← add_assoc]
    by_cases hout : n + isolateStep c < 0 ∨ n + isolateStep c > 125
    · rw [if_pos hout]
      refine ⟨nofun, fun h => ?_⟩
      have hfirst := h.2 [c] (List.prefix_append [c] cs)
      rw [nesting_cons] at hfirst
      have hnil : nesting [] = 0 := rfl
      omega
    · have hin : 0 ≤ n + isolateStep c ∧ n + isolateStep c ≤ 125 := by omega
      rw [if_neg hout, ih hin]
      refine and_congr_right fun _ => ⟨fun h p hp => ?_, fun h p hp => ?_⟩
      · rcases p with _ | ⟨d, p⟩
        · have hnil : nesting [] = 0 := rfl
          omega
        · obtain ⟨rfl, hrest⟩ := List.cons_prefix_cons.mp hp
          rw [nesting_cons, ← add_assoc]
          exact h p hrest
      · have hcons := h (c :: p) (List.cons_prefix_cons.mpr ⟨rfl, hp⟩)
        rwa [nesting_cons, ← add_assoc] at hcons

theorem isolatesValid_iff (cs : List Char) :
    isolateCharactersAreValid 0 cs = true ↔ BalancedIsolates cs := by
  rw [isolatesValid_from ⟨le_refl 0, by norm_num⟩]
  simp only [zero_add]
  exact ⟨fun h => ⟨h.1, h.2⟩, fun h => ⟨h.closed, h.depth⟩⟩

def isIsolate (c : Char) : Bool := isolateCharacters.contains c || c == popIsolateCharacter

section
variable {c : Char} {input : List Char}

theorem isolateStep_eq_zero (h : isIsolate c = false) : isolateStep c = 0 := by
  rw [isIsolate, Bool.or_eq_false_iff, beq_eq_false_iff_ne] at h
  rw [isolateStep, h.1, if_neg Bool.false_ne_true, if_neg h.2]

theorem isolatesValid_filter {n : ℤ} (hn : 0 ≤ n ∧ n ≤ 125) (cs : List Char) :
    isolateCharactersAreValid n (cs.filter isIsolate) = isolateCharactersAreValid n cs := by
  induction cs generalizing n with
  | nil => rfl
  | cons c cs ih =>
    cases hc : isIsolate c with
    | true =>
      rw [List.filter_cons_of_pos hc, isolatesValid_cons, isolatesValid_cons]
      split
      · rfl
      · exact ih (by omega)
    | false =>
      have hout : ¬ (n < 0 ∨ n > 125) := by omega
      rw [List.filter_cons_of_neg (Bool.eq_false_iff.mp hc), isolatesValid_cons,
        isolateStep_eq_zero hc, add_zero, if_neg hout, ih hn]

theorem isolatesValid_congr {xs ys : List Char} (h : xs.filter isIsolate = ys.filter isIsolate) :
    isolateCharactersAreValid 0 xs = isolateCharactersAreValid 0 ys := by
  have hn : (0 : ℤ) ≤ 0 ∧ (0 : ℤ) ≤ 125 := by norm_num
  rw [← isolatesValid_filter hn xs, h, isolatesValid_filter hn]

theorem nesting_of_no_isolates {cs : List Char} (h : ∀ c ∈ cs, isIsolate c = false) :
    nesting cs = 0 := by
  induction cs with
  | nil => rfl
  | cons c cs ih =>
    obtain ⟨hc, hcs⟩ := List.forall_mem_cons.mp h
    rw [nesting_cons, isolateStep_eq_zero hc, ih hcs, add_zero]

theorem balanced_of_no_isolates {cs : List Char} (h : ∀ c ∈ cs, isIsolate c = false) :
    BalancedIsolates cs where
  closed := nesting_of_no_isolates h
  depth p hp := by
    rw [nesting_of_no_isolates fun c hc => h c (hp.subset hc)]
    norm_num

/-! ## what is removed -/

/-- embeddings always, and isolates if those of the input are not balanced -/
def Removed (input : List Char) (c : Char) : Prop :=
  c ∈ rtloCharacters ∨ ¬ BalancedIsolates input ∧ isIsolate c = true

def isKept (input : List Char) (c : Char) : Bool :=
  !(rtloCharacters.contains c || !isolateCharactersAreValid 0 input && isIsolate c)

theorem isKept_eq_false : isKept input c = false ↔ Removed input c := by
  rw [isKept, Removed, Bool.not_eq_false', Bool.or_eq_true, Bool.and_eq_true, List.contains_iff_mem,
    Bool.not_eq_true', ← Bool.not_eq_true, isolatesValid_iff]

theorem isIsolate_cases (h : isIsolate c = true) :
    isWhitespace c = false ∧ rtloCharacters.contains c = false := by
  have hall : ∀ d ∈ isolateCharacters ++ [popIsolateCharacter],
      isWhitespace d = false ∧ rtloCharacters.contains d = false := by
    simp [rtloCharacters, isolateCharacters, popIsolateCharacter, isWhitespace]
  rw [isIsolate, Bool.or_eq_true, List.contains_iff_mem, beq_iff_eq] at h
  exact hall c (List.mem_append.mpr (h.imp_right List.mem_singleton.mpr))

theorem Removed.isWhitespace (h : Removed input c) : isWhitespace c = false := by
  rcases h with hrtlo | hisolate
  · have hall : ∀ d ∈ rtloCharacters, Text.isWhitespace d = false := by
      simp [rtloCharacters, Text.isWhitespace]
    exact hall c hrtlo
  · exact (isIsolate_cases hisolate.2).1

theorem isKept_of_whitespace (h : isWhitespace c = true) : isKept input c = true := by
  by_contra hnot
  rw [(isKept_eq_false.mp (Bool.eq_false_iff.mpr hnot)).isWhitespace] at h
  cases h

theorem filter_isIsolate {p : Char → Bool} (hp : ∀ c, isIsolate c = true → p c = true)
    (cs : List Char) : (cs.filter p).filter isIsolate = cs.filter isIsolate := by
  rw [List.filter_filter]
  congr 1
  funext c
  cases hc : isIsolate c with
  | false => rfl
  | true => rw [hp c hc]; rfl

theorem sanitizeBidiCharacters_eq (s : String) :
    sanitizeBidiCharacters s = String.ofList (s.toList.filter (isKept s.toList)) := by
  have hvalid : isolateCharactersAreValid 0 (s.toList.filter fun c => !rtloCharacters.contains c) =
      isolateCharactersAreValid 0 s.toList :=
    isolatesValid_congr (filter_isIsolate (fun c hc => by rw [(isIsolate_cases hc).2]; rfl) _)
  unfold sanitizeBidiCharacters isKept
  dsimp only
  rw [hvalid]
  cases isolateCharactersAreValid 0 s.toList with
  | true => simp only [Bool.not_true, Bool.false_and, Bool.or_false, if_true]
  | false =>
    rw [if_neg Bool.false_ne_true, List.filter_filter]
    congr 2
    funext c
    rw [Bool.not_false, Bool.true_and, Bool.not_or (rtloCharacters.contains c), Bool.and_comm]
    rfl

/-! ## the trimmed text -/

def spaced (c : Char) : Char := if c = '\n' ∨ c = '\r' then ' ' else c

theorem spaced_cases (c : Char) : spaced c = c ∨ isWhitespace c = true ∧ spaced c = ' ' := by
  by_cases hc : c = '\n' ∨ c = '\r'
  · exact .inr ⟨by rcases hc with rfl | rfl <;> decide, if_pos hc⟩
  · exact .inl (if_neg hc)

theorem isWhitespace_spaced (c : Char) : isWhitespace (spaced c) = isWhitespace c := by
  rcases spaced_cases c with h | ⟨hws, h⟩
  · rw [h]
  · rw [h, hws]; decide

theorem trimStart_map_spaced (cs : List Char) :
    trimStart (cs.map spaced) = (trimStart cs).map spaced := by
  have hspaced : isWhitespace ∘ spaced = isWhitespace := funext isWhitespace_spaced
  rw [trimStart, List.dropWhile_map, hspaced, trimStart]

theorem trim_map_spaced (cs : List Char) :
    trimEnd (trimStart (cs.map spaced)) = (trimEnd (trimStart cs)).map spaced := by
  rw [trimStart_map_spaced, trimEnd_eq, ← List.map_reverse, trimStart_map_spaced,
    ← List.map_reverse, ← trimEnd_eq]

theorem isKept_spaced (input : List Char) (c : Char) :
    isKept input (spaced c) = isKept input c := by
  rcases spaced_cases c with h | ⟨hws, h⟩
  · rw [h]
  · rw [isKept_of_whitespace hws, isKept_of_whitespace]
    rwa [isWhitespace_spaced]

theorem filter_visible (cs : List Char) :
    (cs.filter fun c => !isWhitespace c).filter isIsolate = cs.filter isIsolate :=
  filter_isIsolate (fun c hc => by rw [(isIsolate_cases hc).1]; rfl) cs

theorem isolates_map_spaced (cs : List Char) :
    (cs.map spaced).filter isIsolate = cs.filter isIsolate := by
  have hvisible : (cs.map spaced).filter (fun c => !isWhitespace c) =
      cs.filter fun c => !isWhitespace c := by
    induction cs with
    | nil => rfl
    | cons c cs ih =>
      rw [List.map_cons, List.filter_cons, List.filter_cons, isWhitespace_spaced, ih]
      rcases spaced_cases c with h | ⟨hws, _⟩
      · rw [h]
      · rw [hws]; rfl
  rw [← filter_visible, hvisible, filter_visible]

theorem isolates_trim (cs : List Char) :
    (trimEnd (trimStart cs)).filter isIsolate = cs.filter isIsolate := by
  rw [← filter_visible, filter_trimEnd, filter_trimStart, filter_visible]

theorem sanitizeSingleLine_eq (input : String) :
    (sanitizeSingleLine input).toList =
      ((trimEnd (trimStart input.toList)).filter (isKept input.toList)).map spaced := by
  have hkept : isKept ((trimEnd (trimStart input.toList)).map spaced) = isKept input.toList := by
    have hisolates := (isolates_map_spaced _).trans (isolates_trim input.toList)
    funext c
    rw [isKept, isolatesValid_congr hisolates, isKept]
  have hspaced : isKept input.toList ∘ spaced = isKept input.toList := funext (isKept_spaced _)
  have hline : sanitizeSingleLine input = sanitizeBidiCharacters
      (String.ofList (trimEnd (trimStart (input.toList.map spaced)))) := by
    rw [sanitizeSingleLine, trim, String.toList_ofList]
    rfl
  rw [hline, sanitizeBidiCharacters_eq, String.toList_ofList, String.toList_ofList, trim_map_spaced,
    hkept, List.filter_map, hspaced]

/-- behind whitespace at most, removed characters and then whitespace again, with more text to come -/
def HidesLeading (removed : Char → Prop) (cs : List Char) : Prop :=
  ∃ lead junk c rest, cs = lead ++ (junk ++ c :: rest) ∧ (∀ d ∈ lead, isWhitespace d = true) ∧
    junk ≠ [] ∧ (∀ d ∈ junk, removed d) ∧ isWhitespace c = true ∧ ∃ d ∈ rest, isWhitespace d = false

/-- removed characters protect whitespace at an end of the input from being trimmed -/
def HidesWhitespace (input : List Char) : Prop :=
  HidesLeading (Removed input) input ∨ HidesLeading (Removed input) input.reverse

theorem hidesLeading_iff (input : List Char) {lead core trail : List Char}
    (hlead : ∀ c ∈ lead, isWhitespace c = true) (htrail : ∀ c ∈ trail, isWhitespace c = true)
    (hcore : Trimmed core) :
    HidesLeading (Removed input) (lead ++ (core ++ trail)) ↔
      ∃ c, (core.filter (isKept input)).head? = some c ∧ isWhitespace c = true := by
  constructor
  · rintro ⟨lead', junk, c, rest, heq, hlead', hne, hjunk, hc, d, hd, hdws⟩
    have hstart : trimStart (junk ++ c :: rest) = junk ++ c :: rest := by
      obtain ⟨j, junk, rfl⟩ := List.exists_cons_of_ne_nil hne
      refine trimStart_eq_self fun e he => ?_
      rw [← Option.some.inj he]
      exact (hjunk j List.mem_cons_self).isWhitespace
    have hfirst : trimStart (core ++ trail) = junk ++ c :: rest := by
      rw [← trimStart_append_of_whitespace hlead, heq, trimStart_append_of_whitespace hlead',
        hstart]
    have hsame : core ++ trail = junk ++ c :: rest := by
      rw [← hfirst]
      rcases core with _ | ⟨e, core⟩
      · rw [List.nil_append, trimStart, List.dropWhile_eq_nil_iff.mpr htrail] at hfirst
        exact absurd hfirst (List.append_ne_nil_of_left_ne_nil hne _).symm
      · symm
        exact trimStart_eq_self fun f hf => hcore.head f hf
    obtain ⟨rest', hrest⟩ : ∃ rest', core = junk ++ c :: rest' := by
      obtain ⟨before, behind, rfl⟩ := List.append_of_mem hd
      refine ⟨before ++ d :: trimEnd behind, ?_⟩
      have hshift (ds : List Char) : junk ++ c :: (before ++ d :: ds) =
          (junk ++ c :: before) ++ [d] ++ ds := by
        simp
      rw [hshift] at hsame
      rw [hshift, ← trimEnd_append (trimEnd_concat hdws _), ← hsame,
        trimEnd_append_of_whitespace htrail, trimEnd_eq_self hcore.last]
    refine ⟨c, ?_, hc⟩
    rw [List.head?_filter, List.find?_eq_some_iff_append]
    refine ⟨isKept_of_whitespace hc, junk, rest', hrest, fun e he => ?_⟩
    rw [isKept_eq_false.mpr (hjunk e he)]
    rfl
  · rintro ⟨c, hc, hws⟩
    rw [List.head?_filter, List.find?_eq_some_iff_append] at hc
    obtain ⟨_, junk, rest, rfl, hjunk⟩ := hc
    refine ⟨lead, junk, c, rest ++ trail, by simp, hlead, ?_, fun d hd => ?_, hws, ?_⟩
    · rintro rfl
      rw [hcore.head c rfl] at hws
      cases hws
    · exact isKept_eq_false.mp (by simpa using hjunk d hd)
    · rcases rest.eq_nil_or_concat' with rfl | ⟨rest, d, rfl⟩
      · rw [hcore.last c List.getLast?_concat] at hws
        cases hws
      · refine ⟨d, by simp, hcore.last d ?_⟩
        rw [← List.cons_append, ← List.append_assoc, List.getLast?_concat]

theorem head_map_spaced (cs : List Char) :
    (∃ c, (cs.map spaced).head? = some c ∧ isWhitespace c = true) ↔
      ∃ c, cs.head? = some c ∧ isWhitespace c = true := by
  cases cs with
  | nil => rfl
  | cons c cs => simp [isWhitespace_spaced]

theorem trimmed_iff_ends (cs : List Char) : Trimmed cs ↔
    ¬ ((∃ c, cs.head? = some c ∧ isWhitespace c = true) ∨
      ∃ c, cs.reverse.head? = some c ∧ isWhitespace c = true) := by
  simp only [List.head?_reverse, not_or, not_exists, not_and, Bool.not_eq_true]
  exact ⟨fun h => ⟨h.head, h.last⟩, fun h => ⟨h.1, h.2⟩⟩

theorem trimmed_iff (input : String) :
    Trimmed (sanitizeSingleLine input).toList ↔ ¬ HidesWhitespace input.toList := by
  obtain ⟨lead, trail, hsplit, hlead, htrail⟩ := exists_trim input.toList
  have hcore := trimmed_trim input.toList
  rw [sanitizeSingleLine_eq, trimmed_iff_ends, ← List.map_reverse, head_map_spaced, head_map_spaced,
    HidesWhitespace]
  generalize trimEnd (trimStart input.toList) = core at hsplit hcore
  have hfront := hidesLeading_iff input.toList hlead htrail hcore
  -- the other end is the front of the reversed text
  have hcoreRev : Trimmed core.reverse :=
    ⟨by simpa using hcore.last, by simpa using hcore.head⟩
  have hleadRev : ∀ c ∈ lead.reverse, isWhitespace c = true := by simpa using hlead
  have htrailRev : ∀ c ∈ trail.reverse, isWhitespace c = true := by simpa using htrail
  have hback := hidesLeading_iff input.toList htrailRev hleadRev hcoreRev
  have hreverse : trail.reverse ++ (core.reverse ++ lead.reverse) = input.toList.reverse := by
    rw [hsplit, List.reverse_append, List.reverse_append, List.append_assoc]
  rw [← List.filter_reverse, ← hfront, ← hback, ← hsplit, hreverse]

/-! ## clean names -/

structure CleanLine (cs : List Char) : Prop where
  noNewline : ∀ c ∈ cs, c ≠ '\n' ∧ c ≠ '\r'
  trimmed : Trimmed cs
  noEmbedding : ∀ c ∈ cs, ¬ (0x202A ≤ c.toNat ∧ c.toNat ≤ 0x202E)
  balanced : BalancedIsolates cs

theorem mem_rtloCharacters (h : 0x202A ≤ c.toNat ∧ c.toNat ≤ 0x202E) : c ∈ rtloCharacters := by
  have hc : c = Char.ofNat c.toNat := (Char.ofNat_toNat c).symm
  obtain ⟨hlow, hhigh⟩ := h
  rw [hc]
  generalize c.toNat = n at hlow hhigh
  interval_cases n <;> decide

end

section
variable (input : String)

theorem noNewline_sanitize : ∀ c ∈ (sanitizeSingleLine input).toList, c ≠ '\n' ∧ c ≠ '\r' := by
  intro c hc
  rw [sanitizeSingleLine_eq] at hc
  obtain ⟨d, _, rfl⟩ := List.mem_map.mp hc
  by_cases hd : d = '\n' ∨ d = '\r'
  · rw [spaced, if_pos hd]
    decide
  · rw [spaced, if_neg hd]
    exact not_or.mp hd

theorem isKept_of_mem {c : Char} (hc : c ∈ (sanitizeSingleLine input).toList) :
    rtloCharacters.contains c = false ∧
      (!isolateCharactersAreValid 0 input.toList && isIsolate c) = false := by
  rw [sanitizeSingleLine_eq] at hc
  obtain ⟨d, hd, rfl⟩ := List.mem_map.mp hc
  have hkept := (List.mem_filter.mp hd).2
  rwa [← isKept_spaced, isKept, Bool.not_eq_true', Bool.or_eq_false_iff] at hkept

theorem balanced_sanitize : BalancedIsolates (sanitizeSingleLine input).toList := by
  cases hvalid : isolateCharactersAreValid 0 input.toList with
  | true =>
    have hall : ∀ c, isIsolate c = true → isKept input.toList c = true := by
      intro c hc
      rw [isKept, hvalid, (isIsolate_cases hc).2]
      rfl
    rw [← isolatesValid_iff, ← hvalid]
    apply isolatesValid_congr
    rw [sanitizeSingleLine_eq, isolates_map_spaced, filter_isIsolate hall, isolates_trim]
  | false =>
    refine balanced_of_no_isolates fun c hc => ?_
    have hkept := (isKept_of_mem input hc).2
    rwa [hvalid, Bool.not_false, Bool.true_and] at hkept

end

theorem sanitizeSingleLine_of_clean {s : String}
    (hnewline : ∀ c ∈ s.toList, c ≠ '\n' ∧ c ≠ '\r')
    (hrtlo : ∀ c ∈ s.toList, rtloCharacters.contains c = false)
    (hbalanced : BalancedIsolates s.toList) (htrimmed : Trimmed s.toList) :
    sanitizeSingleLine s = s := by
  have hkeep : s.toList.filter (isKept s.toList) = s.toList := by
    rw [List.filter_eq_self]
    intro c hc
    rw [isKept, (isolatesValid_iff _).mpr hbalanced, hrtlo c hc]
    rfl
  have hmap : s.toList.map spaced = s.toList := by
    refine (List.map_congr_left fun c hc => ?_).trans (List.map_id _)
    exact if_neg (not_or.mpr (hnewline c hc))
  rw [← String.toList_inj, sanitizeSingleLine_eq, trim_of_trimmed htrimmed, hkeep, hmap]

/-- **clean names.**  The result has no newline, no whitespace at its ends, no embedding character,
balanced isolates, and does not change when sanitized again IFF no removed characters stand between
whitespace and an end of the input. -/
theorem single_line_clean_iff (input : String) :
    (CleanLine (sanitizeSingleLine input).toList ∧
      sanitizeSingleLine (sanitizeSingleLine input) = sanitizeSingleLine input) ↔
      ¬ HidesWhitespace input.toList := by
  rw [← trimmed_iff]
  constructor
  · exact fun h => h.1.trimmed
  · intro htrimmed
    refine ⟨⟨noNewline_sanitize input, htrimmed, fun c hc hrange => ?_, balanced_sanitize input⟩, ?_⟩
    · have hnot := (isKept_of_mem input hc).1
      rw [List.contains_iff_mem.mpr (mem_rtloCharacters hrange)] at hnot
      cases hnot
    · exact sanitizeSingleLine_of_clean (noNewline_sanitize input)
        (fun c hc => (isKept_of_mem input hc).1) (balanced_sanitize input) htrimmed

/-- U+202A protects the space from being trimmed, and is removed itself -/
theorem single_line_keeps_space :
    sanitizeSingleLine "\u202a a" = " a" ∧ sanitizeSingleLine " a" = "a" ∧
      ¬ (CleanLine (sanitizeSingleLine "\u202a a").toList ∧
        sanitizeSingleLine (sanitizeSingleLine "\u202a a") = sanitizeSingleLine "\u202a a") := by
  have hfirst : sanitizeSingleLine "\u202a a" = " a" := by decide +kernel
  have hsecond : sanitizeSingleLine " a" = "a" := by decide +kernel
  refine ⟨hfirst, hsecond, fun h => ?_⟩
  have hstable := h.2
  rw [hfirst, hsecond] at hstable
  exact absurd hstable (by decide)

end EpsilonChat.Text
