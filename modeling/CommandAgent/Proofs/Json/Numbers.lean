import CommandAgent.Proofs.Json.Scan

/-!
# Scanning numbers

A number is passed over in parts: the whole digits, the fraction, the exponent. Each part is taken
as far as it goes, so a number ends where nothing carries it on (`Unnumbered`).
-/

namespace CommandAgent.Json

open Grammar

/-! ### Digits -/

/-- Digits are read up to the first byte that is none. -/
theorem digits_go (i : Nat) (t : Bytes) :
    (digits.go i t).2 = ⟨i + (t.takeWhile isDigit).length, t.dropWhile isDigit⟩ := by
  induction t generalizing i with
  | nil => rfl
  | cons b t ih =>
    cases h : isDigit b with
    | true =>
      rw [digits.go, if_pos h, List.takeWhile_cons_of_pos h, List.dropWhile_cons_of_pos h,
        List.length_cons]
      show (digits.go (i + 1) t).2 = _
      rw [ih, Nat.add_assoc, Nat.add_comm 1]
    | false =>
      have hb : ¬ isDigit b = true := by rw [h]; exact Bool.false_ne_true
      rw [digits.go, if_neg hb, List.takeWhile_cons_of_neg hb, List.dropWhile_cons_of_neg hb]
      rfl

theorem skipDigits_eq (c : Cursor) :
    Stream.skipDigits c =
      ⟨c.index + (c.rest.takeWhile isDigit).length, c.rest.dropWhile isDigit⟩ :=
  digits_go c.index c.rest

theorem skipDigits_sound (c : Cursor) :
    ∃ t, (∀ b ∈ t, isDigit b = true) ∧ c.rest = t ++ (Stream.skipDigits c).rest ∧
      (Stream.skipDigits c).index = c.index + t.length := by
  rw [skipDigits_eq]
  exact ⟨c.rest.takeWhile isDigit, fun b hb => List.all_eq_true.mp List.all_takeWhile b hb,
    List.takeWhile_append_dropWhile.symm, rfl⟩

theorem skipDigits_complete {t r : Bytes} (ht : ∀ b ∈ t, isDigit b = true)
    (hr : Headless isDigit r) (i : Nat) :
    Stream.skipDigits ⟨i, t ++ r⟩ = ⟨i + t.length, r⟩ := by
  have htake : (t ++ r).takeWhile isDigit = t := by
    rw [List.takeWhile_append_of_pos ht]
    cases r with
    | nil => exact List.append_nil t
    | cons b u =>
      rw [List.takeWhile_cons_of_neg (by rw [hr b u rfl]; exact Bool.false_ne_true),
        List.append_nil]
  rw [skipDigits_eq, hr.dropWhile ht, htake]

theorem skipDigits_cons {b : UInt8} (hb : isDigit b = true) (i : Nat) (t : Bytes) :
    Stream.skipDigits ⟨i, b :: t⟩ = Stream.skipDigits ⟨i + 1, t⟩ := by
  rw [skipDigits_eq, skipDigits_eq, List.takeWhile_cons_of_pos hb, List.dropWhile_cons_of_pos hb,
    List.length_cons, Nat.add_assoc, Nat.add_comm 1]

/-! ### Numbers -/

/-- The bytes that carry on a number. -/
def numeric (b : UInt8) : Bool :=
  isDigit b || b == code '.' || b == code 'e' || b == code 'E'

/-- Behind a number stands nothing that carries it on. -/
abbrev Unnumbered (r : Bytes) : Prop := Headless numeric r

theorem Headless.imp {p q : UInt8 → Bool} {r : Bytes} (h : Headless p r)
    (hpq : ∀ b, q b = true → p b = true) : Headless q r := by
  intro b t heq
  have hp := h b t heq
  cases hq : q b with
  | false => rfl
  | true => rw [hpq b hq] at hp; exact hp

theorem Unnumbered.digits {r : Bytes} (h : Unnumbered r) : Headless isDigit r :=
  h.imp fun b hb => by rw [numeric, hb]; rfl

theorem Unnumbered.atPoint {r : Bytes} (h : Unnumbered r) (i : Nat) :
    atPoint ⟨i, r⟩ = false := by
  cases r with
  | nil => rfl
  | cons b t =>
    have hb := h b t rfl
    simp only [numeric, Bool.or_eq_false_iff] at hb
    exact hb.1.1.2

theorem Unnumbered.atExponent {r : Bytes} (h : Unnumbered r) (i : Nat) :
    atExponent ⟨i, r⟩ = false := by
  cases r with
  | nil => rfl
  | cons b t =>
    have hb := h b t rfl
    simp only [numeric, Bool.or_eq_false_iff] at hb
    show (b == code 'e' || b == code 'E') = false
    rw [hb.1.2, hb.2]
    rfl

def skipSign (c : Cursor) : Cursor :=
  match c.rest with
  | b :: _ => if b = code '+' ∨ b = code '-' then c.advance else c
  | [] => c

/-- Pass over digits, of which there must be one. -/
def skipSomeDigits (c : Cursor) : Except Fault Cursor :=
  match c.rest with
  | b :: _ =>
    if isDigit b then .ok (Stream.skipDigits c) else .error (c.advance.fault .invalidNumber)
  | [] => .error (c.fault .invalidNumber)

theorem skipExponent_eq (c : Cursor) :
    Stream.skipExponent c = skipSomeDigits (skipSign c.advance) := rfl

/-- What is passed over is a sign or nothing. -/
theorem skipSign_sound (c : Cursor) :
    ∃ sign ∈ [[], [code '+'], [code '-']], c.rest = sign ++ (skipSign c).rest := by
  obtain ⟨i, rest⟩ := c
  cases rest with
  | nil => exact ⟨[], by simp, rfl⟩
  | cons b t =>
    by_cases hb : b = code '+' ∨ b = code '-'
    · refine ⟨[b], by rcases hb with rfl | rfl <;> simp, ?_⟩
      simp only [skipSign, hb, if_true]
      rfl
    · refine ⟨[], by simp, ?_⟩
      simp only [skipSign, hb, if_false]
      rfl

/-- A sign is passed over if no second one follows. -/
theorem skipSign_complete {sign r : Bytes} (hsign : sign ∈ [[], [code '+'], [code '-']])
    (hr : Headless (fun b => b == code '+' || b == code '-') r) (i : Nat) :
    ∃ j, skipSign ⟨i, sign ++ r⟩ = ⟨j, r⟩ := by
  have hcases : sign = [] ∨ sign = [code '+'] ∨ sign = [code '-'] := by simpa using hsign
  rcases hcases with rfl | rfl | rfl
  · refine ⟨i, ?_⟩
    cases r with
    | nil => rfl
    | cons b t =>
      have hb : ¬ (b = code '+' ∨ b = code '-') := by simpa using hr b t rfl
      simp only [skipSign, List.nil_append, hb, if_false]
  · exact ⟨i + 1, rfl⟩
  · exact ⟨i + 1, rfl⟩

/-- What is passed over is a run of digits. -/
theorem skipSomeDigits_sound {c c' : Cursor} (h : skipSomeDigits c = .ok c') :
    ∃ t, Digits t ∧ c.rest = t ++ c'.rest := by
  obtain ⟨i, rest⟩ := c
  cases rest with
  | nil => cases h
  | cons b t =>
    cases hb : isDigit b with
    | false =>
      simp only [skipSomeDigits, hb, Bool.false_eq_true, if_false] at h
      cases h
    | true =>
      simp only [skipSomeDigits, hb, if_true, Except.ok.injEq] at h
      rw [skipDigits_cons hb] at h
      obtain ⟨ds, hds, hrest, -⟩ := skipDigits_sound ⟨i + 1, t⟩
      rw [h] at hrest
      refine ⟨b :: ds, ⟨List.cons_ne_nil b ds, ?_⟩, congrArg (b :: ·) hrest⟩
      intro d hd
      rcases List.mem_cons.mp hd with rfl | hd
      · exact hb
      · exact hds d hd

/-- A run of digits is passed over to its end. -/
theorem skipSomeDigits_complete {t r : Bytes} (ht : Digits t) (hr : Headless isDigit r) (i : Nat) :
    ∃ j, skipSomeDigits ⟨i, t ++ r⟩ = .ok ⟨j, r⟩ := by
  obtain ⟨hne, hdigits⟩ := ht
  have hskip := skipDigits_complete hdigits hr i
  cases t with
  | nil => exact absurd rfl hne
  | cons b t =>
    have hb : isDigit b = true := hdigits b List.mem_cons_self
    simp only [List.cons_append] at hskip ⊢
    simp only [skipSomeDigits, hb, if_true, hskip]
    exact ⟨_, rfl⟩

/-- What is passed over from an `e` on is an exponent. -/
theorem skipExponent_sound {c c' : Cursor} (hc : atExponent c = true)
    (h : Stream.skipExponent c = .ok c') : ∃ t, Exponent t ∧ c.rest = t ++ c'.rest := by
  obtain ⟨i, rest⟩ := c
  cases rest with
  | nil => cases hc
  | cons e t =>
    have he : e = code 'e' ∨ e = code 'E' := by simpa [atExponent] using hc
    rw [skipExponent_eq] at h
    obtain ⟨sign, hsign, hrest⟩ := skipSign_sound ⟨i + 1, t⟩
    obtain ⟨ds, hds, hbehind⟩ := skipSomeDigits_sound h
    refine ⟨e :: (sign ++ ds), .some he hsign hds, ?_⟩
    show e :: t = e :: (sign ++ ds) ++ c'.rest
    have ht : t = sign ++ (ds ++ c'.rest) := by rw [← hbehind]; exact hrest
    rw [ht, List.cons_append, List.append_assoc]

/-- An exponent is passed over to its end. -/
theorem skipExponent_complete {e : UInt8} {sign t r : Bytes}
    (hsign : sign ∈ [[], [code '+'], [code '-']]) (ht : Digits t) (hr : Unnumbered r) (i : Nat) :
    ∃ j, Stream.skipExponent ⟨i, e :: (sign ++ (t ++ r))⟩ = .ok ⟨j, r⟩ := by
  have hhead : Headless (fun b => b == code '+' || b == code '-') (t ++ r) := by
    obtain ⟨hne, hdigits⟩ := ht
    cases t with
    | nil => exact absurd rfl hne
    | cons b t =>
      have hb := hdigits b List.mem_cons_self
      apply headless_cons
      cases hplus : b == code '+' with
      | true => rw [eq_of_beq hplus] at hb; cases hb
      | false =>
        cases hminus : b == code '-' with
        | true => rw [eq_of_beq hminus] at hb; cases hb
        | false => rfl
  obtain ⟨j, hj⟩ := skipSign_complete hsign hhead (i + 1)
  obtain ⟨k, hk⟩ := skipSomeDigits_complete ht hr.digits j
  refine ⟨k, ?_⟩
  rw [skipExponent_eq]
  show skipSomeDigits (skipSign ⟨i + 1, sign ++ (t ++ r)⟩) = _
  rw [hj, hk]

/-- Pass over what may stand behind the fraction of a number. -/
def behindFraction (c : Cursor) : Except Fault Cursor :=
  if atExponent c then Stream.skipExponent c else .ok c

/-- Pass over what may stand behind the whole digits of a number. -/
def behindWhole (c : Cursor) : Except Fault Cursor :=
  if atPoint c then
    if (Stream.skipDigits c.advance).index = c.advance.index then
      .error (c.advance.peekFault .invalidNumber)
    else behindFraction (Stream.skipDigits c.advance)
  else behindFraction c

theorem skipNumber_zero (i : Nat) {t : Bytes} (ht : Headless isDigit t) :
    Stream.skipNumber ⟨i, 48 :: t⟩ = behindWhole ⟨i + 1, t⟩ := by
  cases t with
  | nil => rfl
  | cons d t =>
    have hd : isDigit d = false := ht d t rfl
    show (if isDigit d = true then _ else behindWhole ⟨i + 1, d :: t⟩) = _
    rw [hd]
    rfl

theorem skipNumber_other (i : Nat) {b : UInt8} (hb : b ≠ 48) (hdigit : isDigit b = true)
    (t : Bytes) :
    Stream.skipNumber ⟨i, b :: t⟩ = behindWhole (Stream.skipDigits ⟨i, b :: t⟩) := by
  show (if b = 48 then _ else if isDigit b = true then _ else _) = _
  rw [if_neg hb, if_pos hdigit]
  rfl

/-- What is passed over behind a fraction is an exponent or nothing. -/
theorem behindFraction_sound {c c' : Cursor} (h : behindFraction c = .ok c') :
    ∃ t, Exponent t ∧ c.rest = t ++ c'.rest := by
  rw [behindFraction] at h
  cases he : atExponent c with
  | true =>
    rw [he, if_pos rfl] at h
    exact skipExponent_sound he h
  | false =>
    rw [he, if_neg Bool.false_ne_true] at h
    cases h
    exact ⟨[], .none, rfl⟩

/-- What may stand behind a fraction is passed over. -/
theorem behindFraction_complete {t r : Bytes} (ht : Exponent t) (hr : Unnumbered r) (i : Nat) :
    ∃ j, behindFraction ⟨i, t ++ r⟩ = .ok ⟨j, r⟩ := by
  cases ht with
  | none =>
    refine ⟨i, ?_⟩
    rw [behindFraction, List.nil_append, hr.atExponent i]
    rfl
  | @some e sign ds he hsign hds =>
    obtain ⟨j, hj⟩ := skipExponent_complete hsign hds hr (e := e) i
    refine ⟨j, ?_⟩
    have hat : atExponent ⟨i, e :: (sign ++ ds) ++ r⟩ = true := by
      rcases he with rfl | rfl <;> rfl
    rw [behindFraction, hat, if_pos rfl, List.cons_append, List.append_assoc, hj]

/-- Behind the digits of a fraction no digit comes. -/
theorem headless_exponent {t r : Bytes} (ht : Exponent t) (hr : Unnumbered r) :
    Headless isDigit (t ++ r) ∧ ∀ i, atPoint ⟨i, t ++ r⟩ = false := by
  cases ht with
  | none => exact ⟨hr.digits, hr.atPoint⟩
  | some he _ _ =>
    rcases he with rfl | rfl
    · exact ⟨headless_cons (by decide) _, fun _ => rfl⟩
    · exact ⟨headless_cons (by decide) _, fun _ => rfl⟩

theorem headless_fraction {f x r : Bytes} (hf : Fraction f) (hx : Exponent x) (hr : Unnumbered r) :
    Headless isDigit (f ++ (x ++ r)) := by
  cases hf with
  | none => exact (headless_exponent hx hr).1
  | some _ => exact headless_cons (by decide) _

/-- Behind the whole part stand a fraction and an exponent, either of which may be missing. -/
theorem behindWhole_sound {c c' : Cursor} (h : behindWhole c = .ok c') :
    ∃ f x, Fraction f ∧ Exponent x ∧ c.rest = f ++ (x ++ c'.rest) := by
  rw [behindWhole] at h
  cases hp : atPoint c with
  | false =>
    rw [hp, if_neg Bool.false_ne_true] at h
    obtain ⟨x, hx, hrest⟩ := behindFraction_sound h
    exact ⟨[], x, .none, hx, hrest⟩
  | true =>
    obtain ⟨i, rest⟩ := c
    cases rest with
    | nil => cases hp
    | cons b t =>
      have hb : b = code '.' := eq_of_beq hp
      rw [hp, if_pos rfl, Cursor.advance_cons] at h
      by_cases hnone : (Stream.skipDigits ⟨i + 1, t⟩).index = i + 1
      · rw [if_pos hnone] at h
        cases h
      · rw [if_neg hnone] at h
        obtain ⟨ds, hds, hrest, hindex⟩ := skipDigits_sound ⟨i + 1, t⟩
        obtain ⟨x, hx, hbehind⟩ := behindFraction_sound h
        have hne : ds ≠ [] := by
          rintro rfl
          exact hnone hindex
        refine ⟨code '.' :: ds, x, .some ⟨hne, hds⟩, hx, ?_⟩
        have ht : t = ds ++ (x ++ c'.rest) := by rw [← hbehind]; exact hrest
        show b :: t = _
        rw [hb, ht]
        rfl

/-- A fraction and an exponent behind the whole part are passed over. -/
theorem behindWhole_complete {f x r : Bytes} (hf : Fraction f) (hx : Exponent x)
    (hr : Unnumbered r) (i : Nat) : ∃ j, behindWhole ⟨i, f ++ (x ++ r)⟩ = .ok ⟨j, r⟩ := by
  obtain ⟨hdigit, hpoint⟩ := headless_exponent hx hr
  cases hf with
  | none =>
    rw [behindWhole, List.nil_append, hpoint i, if_neg Bool.false_ne_true]
    exact behindFraction_complete hx hr i
  | @some ds hds =>
    obtain ⟨hne, hdigits⟩ := hds
    have hskip : Stream.skipDigits ⟨i + 1, ds ++ (x ++ r)⟩ = ⟨i + 1 + ds.length, x ++ r⟩ :=
      skipDigits_complete hdigits hdigit (i + 1)
    -- the reader tells from its position whether there were digits
    have hlength : i + 1 + ds.length ≠ i + 1 := by
      have hpos : 0 < ds.length := List.length_pos_iff.mpr hne
      omega
    show ∃ j, (if (Stream.skipDigits ⟨i + 1, ds ++ (x ++ r)⟩).index = i + 1 then _
      else behindFraction (Stream.skipDigits ⟨i + 1, ds ++ (x ++ r)⟩)) = _
    rw [hskip, if_neg hlength]
    exact behindFraction_complete hx hr _

/-- What is passed over as a number is one without a sign. -/
theorem skipNumber_sound {c c' : Cursor} (h : Stream.skipNumber c = .ok c') :
    ∃ t, Unsigned t ∧ c.rest = t ++ c'.rest := by
  obtain ⟨i, rest⟩ := c
  cases rest with
  | nil => cases h
  | cons b t =>
    by_cases hzero : b = 48
    · subst hzero
      -- no other digit may follow a zero in front
      have hdigit : Headless isDigit t := by
        intro d u hd
        subst hd
        cases hdigit : isDigit d with
        | false => rfl
        | true =>
          have herror : Stream.skipNumber ⟨i, 48 :: d :: u⟩ =
              .error ((Cursor.mk (i + 1) (d :: u)).peekFault .invalidNumber) := by
            show (if isDigit d = true then _ else _) = _
            rw [if_pos hdigit]
            rfl
          rw [herror] at h
          cases h
      rw [skipNumber_zero i hdigit] at h
      obtain ⟨f, x, hf, hx, hrest⟩ := behindWhole_sound h
      refine ⟨[48] ++ (f ++ x), ⟨_, f, x, rfl, .zero, hf, hx⟩, ?_⟩
      show 48 :: t = _
      rw [List.append_assoc, List.append_assoc, ← hrest]
      rfl
    · cases hdigit : isDigit b with
      | false =>
        have herror : Stream.skipNumber ⟨i, b :: t⟩ =
            .error ((Cursor.mk (i + 1) t).fault .invalidNumber) := by
          show (if b = 48 then _ else if isDigit b = true then _ else _) = _
          rw [if_neg hzero, hdigit]
          rfl
        rw [herror] at h
        cases h
      | true =>
        rw [skipNumber_other i hzero hdigit, skipDigits_cons hdigit] at h
        obtain ⟨ds, hds, hrest, -⟩ := skipDigits_sound ⟨i + 1, t⟩
        obtain ⟨f, x, hf, hx, hbehind⟩ := behindWhole_sound h
        refine ⟨(b :: ds) ++ (f ++ x), ⟨_, f, x, rfl, .other hdigit hzero hds, hf, hx⟩, ?_⟩
        have ht : t = ds ++ (f ++ (x ++ c'.rest)) := by rw [← hbehind]; exact hrest
        show b :: t = _
        rw [List.append_assoc, List.append_assoc, List.cons_append, ← ht]

/-- A number without a sign is passed over if nothing follows that it could go on with. -/
theorem skipNumber_complete {t r : Bytes} (ht : Unsigned t) (hr : Unnumbered r) (i : Nat) :
    ∃ j, Stream.skipNumber ⟨i, t ++ r⟩ = .ok ⟨j, r⟩ := by
  obtain ⟨whole, f, x, rfl, hwhole, hf, hx⟩ := ht
  have hdigit := headless_fraction hf hx hr
  rw [List.append_assoc, List.append_assoc]
  cases hwhole with
  | zero =>
    rw [List.singleton_append, skipNumber_zero i hdigit]
    exact behindWhole_complete hf hx hr _
  | @other b ds hb hne hds =>
    have hall : ∀ d ∈ b :: ds, isDigit d = true := by
      intro d hd
      rcases List.mem_cons.mp hd with rfl | hd
      · exact hb
      · exact hds d hd
    rw [List.cons_append, skipNumber_other i hne hb, ← List.cons_append,
      skipDigits_complete hall hdigit i]
    exact behindWhole_complete hf hx hr _

end CommandAgent.Json
