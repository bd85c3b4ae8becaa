import CommandAgent.Proofs.Json.Scan
import CommandAgent.Url.Host
import Mathlib.Data.List.TakeWhile

/-!
# IPv6 addresses are read as they were written

An IPv6 address is eight pieces of 16 bits (`IsIpv6`), and nothing else is ever read as one
(`isIpv6_of_parse`). Its text has the pieces in hexadecimal with colons between them, and for the
longest run of zeros two colons in a row. Read again, the pieces before the gap and behind it are
the same, and the gap is as long as it was (`parseIpv6_text`).
-/

namespace CommandAgent.Url

/-- Eight pieces of 16 bits. -/
structure IsIpv6 (ps : List Nat) : Prop where
  length : ps.length = 8
  piece : ∀ p ∈ ps, p < 65536

/-! ### One piece -/

theorem hexDigit?_digitChar {d : Nat} (h : d < 16) : hexDigit? (Nat.digitChar d) = some d := by
  have hall : ∀ d < 16, hexDigit? (Nat.digitChar d) = some d := by decide
  exact hall d h

/-- The digits of a number, with their value. -/
theorem exists_digits (n : Nat) :
    ∃ ds : List Nat, Nat.toDigits 16 n = ds.map Nat.digitChar ∧ (∀ d ∈ ds, d < 16) ∧
      ds.foldl (fun n d => n * 16 + d) 0 = n := by
  induction n using Nat.strongRecOn with
  | ind n ih =>
    by_cases hsmall : n < 16
    · refine ⟨[n], Nat.toDigits_of_lt_base hsmall, ?_, ?_⟩
      · simpa using hsmall
      · simp
    · obtain ⟨ds, htext, hds, hvalue⟩ := ih (n / 16) (by omega)
      refine ⟨ds ++ [n % 16], ?_, ?_, ?_⟩
      · rw [Nat.toDigits_of_base_le (by decide) (by omega), htext, List.map_append]
        rfl
      · intro d hd
        rcases List.mem_append.mp hd with hd | hd
        · exact hds d hd
        · rw [List.mem_singleton.mp hd]
          exact Nat.mod_lt n (by decide)
      · rw [List.foldl_append, hvalue, List.foldl_cons, List.foldl_nil, Nat.mul_comm]
        exact Nat.div_add_mod n 16

theorem hexPiece_append {ds : List Nat} (hds : ∀ d ∈ ds, d < 16) (k n : Nat) (r : List Char) :
    hexPiece (ds.length + k) n (ds.map Nat.digitChar ++ r) =
      hexPiece k (ds.foldl (fun n d => n * 16 + d) n) r := by
  induction ds generalizing n with
  | nil => rw [List.length_nil, Nat.zero_add]; rfl
  | cons d ds ih =>
    obtain ⟨hd, hds⟩ := List.forall_mem_cons.mp hds
    rw [List.length_cons, Nat.add_right_comm, List.map_cons, List.cons_append, hexPiece,
      hexDigit?_digitChar hd]
    exact ih hds _

theorem hexPiece_of_undigit {r : List Char} (hr : ∀ c ∈ r.head?, hexDigit? c = none) (k n : Nat) :
    hexPiece k n r = (n, r) := by
  cases k with
  | zero => rfl
  | succ k =>
    cases r with
    | nil => rfl
    | cons c r => rw [hexPiece, hr c rfl]

/-- A piece is read up to what is no digit. -/
theorem hexPiece_toDigits {p : Nat} (hp : p < 65536) {r : List Char}
    (hr : ∀ c ∈ r.head?, hexDigit? c = none) : hexPiece 4 0 (Nat.toDigits 16 p ++ r) = (p, r) := by
  obtain ⟨ds, htext, hds, hvalue⟩ := exists_digits p
  have hlength : ds.length ≤ 4 := by
    rw [← List.length_map (f := Nat.digitChar), ← htext,
      Nat.length_toDigits_le_iff (by decide) (by decide)]
    exact hp
  have hpiece := hexPiece_append hds (4 - ds.length) 0 r
  rw [Nat.add_sub_cancel' hlength, ← htext, hvalue] at hpiece
  rw [hpiece, hexPiece_of_undigit hr]

theorem exists_toDigits_cons (p : Nat) : ∃ c t, Nat.toDigits 16 p = c :: t ∧ c ≠ ':' := by
  obtain ⟨c, t, htext⟩ := List.exists_cons_of_ne_nil (Nat.toDigits_ne_nil (n := p) (b := 16))
  obtain ⟨ds, hds, hlt, -⟩ := exists_digits p
  refine ⟨c, t, htext, ?_⟩
  rw [hds] at htext
  have hc : c ∈ ds.map Nat.digitChar := by
    rw [htext]
    exact List.mem_cons_self
  obtain ⟨d, hd, rfl⟩ := List.mem_map.mp hc
  have hall : ∀ d < 16, Nat.digitChar d ≠ ':' := by decide
  exact hall d (hlt d hd)

/-! ### Rows of pieces -/

/-- Pieces with colons between them. -/
def colons (ps : List Nat) : List Char := [':'].intercalate (ps.map (Nat.toDigits 16))

theorem colons_cons {p : Nat} {ps : List Nat} (h : ps ≠ []) :
    colons (p :: ps) = Nat.toDigits 16 p ++ ':' :: colons ps := by
  obtain ⟨q, rest, rfl⟩ := List.exists_cons_of_ne_nil h
  simp [colons, List.intercalate]

theorem colons_singleton (p : Nat) : colons [p] = Nat.toDigits 16 p := by
  simp [colons, List.intercalate]

theorem exists_colons_cons {ps : List Nat} (h : ps ≠ []) :
    ∃ c t, colons ps = c :: t ∧ c ≠ ':' := by
  obtain ⟨p, rest, rfl⟩ := List.exists_cons_of_ne_nil h
  obtain ⟨c, t, htext, hc⟩ := exists_toDigits_cons p
  by_cases hlast : rest = []
  · exact ⟨c, t, by rw [hlast, colons_singleton, htext], hc⟩
  · exact ⟨c, _, by rw [colons_cons hlast, htext, List.cons_append], hc⟩

section
variable {p : Nat} {ps : List Nat} {s : Ipv6} {r : List Char}

theorem ipv6Pieces_nil (fuel : Nat) (s : Ipv6) : ipv6Pieces fuel s [] = some s := by
  cases fuel <;> rfl

/-- The last piece of an address is read at its end. -/
theorem ipv6Pieces_last (hp : p < 65536) (hroom : s.pieces.length < 8) (fuel : Nat) :
    ipv6Pieces (fuel + 1) s (Nat.toDigits 16 p) = some ⟨s.pieces ++ [p], s.gap⟩ := by
  have hpiece := hexPiece_toDigits hp (r := []) (fun c hc => by cases hc)
  obtain ⟨c, t, htext, hc⟩ := exists_toDigits_cons p
  rw [List.append_nil] at hpiece
  rw [htext] at hpiece ⊢
  rw [ipv6Pieces, if_neg (Nat.not_le.mpr hroom), if_neg hc]
  simp only [hpiece]

/-- A piece and its colon are read, and then the rest. -/
theorem ipv6Pieces_piece (hp : p < 65536) (hroom : s.pieces.length < 8) (hr : r ≠ [])
    (fuel : Nat) : ipv6Pieces (fuel + 1) s (Nat.toDigits 16 p ++ ':' :: r) =
      ipv6Pieces fuel ⟨s.pieces ++ [p], s.gap⟩ r := by
  have hpiece := hexPiece_toDigits hp (r := ':' :: r) (fun c hc => by cases hc; rfl)
  obtain ⟨c, t, htext, hc⟩ := exists_toDigits_cons p
  rw [htext, List.cons_append] at hpiece ⊢
  rw [ipv6Pieces, if_neg (Nat.not_le.mpr hroom), if_neg hc]
  simp only [hpiece, List.isEmpty_eq_false_iff.mpr hr, Bool.false_eq_true, if_false]

theorem ipv6Pieces_gap (hroom : s.pieces.length < 8) (hgap : s.gap = none) (fuel : Nat) :
    ipv6Pieces (fuel + 1) s (':' :: r) =
      ipv6Pieces fuel ⟨s.pieces ++ [0], some (s.pieces.length + 1)⟩ r := by
  rw [ipv6Pieces, if_neg (Nat.not_le.mpr hroom), if_pos rfl, hgap]
  rfl

/-- Pieces up to the end are read as they are. -/
theorem ipv6Pieces_colons (hps : ∀ p ∈ ps, p < 65536) (hroom : s.pieces.length + ps.length ≤ 8)
    {fuel : Nat} (hfuel : ps.length ≤ fuel) :
    ipv6Pieces fuel s (colons ps) = some ⟨s.pieces ++ ps, s.gap⟩ := by
  -- on the pieces: each takes one unit of fuel, and the last has no colon behind it
  induction ps generalizing s fuel with
  | nil =>
    rw [List.append_nil]
    exact ipv6Pieces_nil fuel s
  | cons p ps ih =>
    obtain ⟨hp, hps⟩ := List.forall_mem_cons.mp hps
    simp only [List.length_cons] at hroom hfuel
    obtain ⟨fuel, rfl⟩ : ∃ n, fuel = n + 1 := ⟨fuel - 1, by omega⟩
    by_cases hnil : ps = []
    · subst hnil
      rw [colons_singleton, ipv6Pieces_last hp (by omega)]
    · have hne : colons ps ≠ [] := by
        obtain ⟨c, t, htext, -⟩ := exists_colons_cons hnil
        rw [htext]
        exact List.cons_ne_nil c t
      rw [colons_cons hnil, ipv6Pieces_piece hp (by omega) hne, ih hps _ (by omega)]
      · simp
      · simp only [List.length_append, List.length_singleton]
        omega

/-- Pieces with a gap behind them are read up to it. -/
theorem ipv6Pieces_before_gap (hps : ∀ p ∈ ps, p < 65536) (hnil : ps ≠ [])
    (hroom : s.pieces.length + ps.length < 8) (hgap : s.gap = none) (fuel : Nat) :
    ipv6Pieces (ps.length + (fuel + 1)) s (colons ps ++ ':' :: ':' :: r) =
      ipv6Pieces fuel ⟨s.pieces ++ ps ++ [0], some ((s.pieces ++ ps).length + 1)⟩ r := by
  induction ps generalizing s with
  | nil => exact absurd rfl hnil
  | cons p ps ih =>
    obtain ⟨hp, hps⟩ := List.forall_mem_cons.mp hps
    simp only [List.length_cons] at hroom
    rw [List.length_cons, Nat.add_right_comm]
    have hlength : (s.pieces ++ [p]).length = s.pieces.length + 1 := List.length_append
    -- two colons follow the last piece, one colon each of the others
    by_cases hlast : ps = []
    · subst hlast
      have hnext := ipv6Pieces_gap (s := ⟨s.pieces ++ [p], s.gap⟩) (r := r)
        (by rw [hlength]; omega) hgap fuel
      rw [colons_singleton, ipv6Pieces_piece hp (by omega) (List.cons_ne_nil _ _),
        List.length_nil, Nat.zero_add, hnext]
    · have hnext := ih (s := ⟨s.pieces ++ [p], s.gap⟩) hps hlast (by rw [hlength]; omega) hgap
      rw [colons_cons hlast, List.append_assoc, List.cons_append,
        ipv6Pieces_piece hp (by omega) (by simp), hnext]
      simp

end

/-! ### The gap -/

/-- The best of a list is one of the list, or the one that was there before. -/
theorem foldl_best_mem (runs : List (Nat × Nat)) (best : Nat × Nat) :
    runs.foldl (fun best r => if r.2 > best.2 then r else best) best ∈ best :: runs := by
  induction runs generalizing best with
  | nil => exact List.mem_cons_self
  | cons r runs ih =>
    rw [List.foldl_cons]
    rcases List.mem_cons.mp (ih (if r.2 > best.2 then r else best)) with heq | hmem
    · rw [heq]
      split
      · exact List.mem_cons_of_mem _ List.mem_cons_self
      · exact List.mem_cons_self
    · exact List.mem_cons_of_mem _ (List.mem_cons_of_mem _ hmem)

theorem drop_length_takeWhile (p : Nat → Bool) (ps : List Nat) :
    ps.drop (ps.takeWhile p).length = ps.dropWhile p := by
  calc ps.drop (ps.takeWhile p).length
      = (ps.takeWhile p ++ ps.dropWhile p).drop (ps.takeWhile p).length := by
        rw [List.takeWhile_append_dropWhile]
    _ = ps.dropWhile p := List.drop_left

/-- The pieces before the run of zeros, the zeros, and the pieces behind it. -/
theorem eq_append_zeroRun {ps : List Nat} (h : 0 < (zeroRun ps).2) :
    ps = ps.take (zeroRun ps).1 ++ List.replicate (zeroRun ps).2 0 ++
      ps.drop ((zeroRun ps).1 + (zeroRun ps).2) := by
  rcases List.mem_cons.mp (foldl_best_mem ((List.range 8).map fun i =>
    (i, ((ps.drop i).takeWhile (· == 0)).length)) (0, 0)) with hnone | hrun
  · have hzero : zeroRun ps = (0, 0) := hnone
    rw [hzero] at h
    exact absurd h (Nat.lt_irrefl 0)
  · obtain ⟨i, -, hrun⟩ := List.mem_map.mp hrun
    have hpair : zeroRun ps = (i, ((ps.drop i).takeWhile (· == 0)).length) := hrun.symm
    have hzeros : List.replicate ((ps.drop i).takeWhile (· == 0)).length 0 =
        (ps.drop i).takeWhile (· == 0) := by
      refine (List.eq_replicate_iff.mpr ⟨rfl, ?_⟩).symm
      intro p hp
      simpa using List.mem_takeWhile_imp hp
    have hbehind : ps.drop (i + ((ps.drop i).takeWhile (· == 0)).length) =
        (ps.drop i).dropWhile (· == 0) := by
      rw [← List.drop_drop, drop_length_takeWhile]
    rw [hpair, hzeros, hbehind, List.append_assoc, List.takeWhile_append_dropWhile,
      List.take_append_drop]

/-! ### Whole addresses -/

theorem toList_colons (ps : List Nat) :
    (":".intercalate (ps.map fun n => String.ofList (Nat.toDigits 16 n))).toList = colons ps := by
  rw [String.toList_intercalate, List.map_map]
  have hpieces : ps.map (String.toList ∘ fun n => String.ofList (Nat.toDigits 16 n)) =
      ps.map (Nat.toDigits 16) := List.map_congr_left fun n _ => String.toList_ofList
  rw [hpieces]
  rfl

/-- The text of an address, without a gap or with one. -/
theorem toList_ipv6Text (ps : List Nat) :
    (ipv6Text ps).toList =
      if (zeroRun ps).2 < 2 then colons ps
      else colons (ps.take (zeroRun ps).1) ++ ':' :: ':' ::
        colons (ps.drop ((zeroRun ps).1 + (zeroRun ps).2)) := by
  unfold ipv6Text
  obtain ⟨start, length⟩ := zeroRun ps
  dsimp only
  split
  · exact toList_colons ps
  · rw [String.toList_append, String.toList_append, toList_colons, toList_colons, List.append_assoc]
    rfl

/-- Each piece of an address takes a character at least. -/
theorem length_le_colons (ps : List Nat) : ps.length ≤ (colons ps).length := by
  induction ps with
  | nil => exact Nat.zero_le _
  | cons p ps ih =>
    by_cases hlast : ps = []
    · obtain ⟨c, t, htext, -⟩ := exists_toDigits_cons p
      rw [hlast, colons_singleton, htext]
      exact Nat.le_add_left 1 t.length
    · rw [colons_cons hlast]
      simp only [List.length_cons, List.length_append]
      omega

/-- Nothing but colons and digits is written. -/
theorem mem_colons {ps : List Nat} {c : Char} (h : c ∈ colons ps) :
    c = ':' ∨ ∃ d < 16, c = Nat.digitChar d := by
  have hdigits {p : Nat} (hc : c ∈ Nat.toDigits 16 p) : ∃ d < 16, c = Nat.digitChar d := by
    obtain ⟨ds, htext, hds, -⟩ := exists_digits p
    rw [htext] at hc
    obtain ⟨d, hd, rfl⟩ := List.mem_map.mp hc
    exact ⟨d, hds d hd, rfl⟩
  induction ps with
  | nil => cases h
  | cons p ps ih =>
    by_cases hlast : ps = []
    · rw [hlast, colons_singleton] at h
      exact .inr (hdigits h)
    · rw [colons_cons hlast] at h
      rcases List.mem_append.mp h with h | h
      · exact .inr (hdigits h)
      rcases List.mem_cons.mp h with h | h
      · exact .inl h
      · exact ih h

/-- An address is written in hexadecimal digits and colons. -/
theorem mem_ipv6Text {ps : List Nat} {c : Char} (h : c ∈ (ipv6Text ps).toList) :
    c = ':' ∨ ∃ d < 16, c = Nat.digitChar d := by
  rw [toList_ipv6Text] at h
  split at h
  · exact mem_colons h
  rcases List.mem_append.mp h with h | h
  · exact mem_colons h
  rcases List.mem_cons.mp h with h | h
  · exact .inl h
  rcases List.mem_cons.mp h with h | h
  · exact .inl h
  · exact mem_colons h

/-- What the pieces that were read come to. -/
def gathered : Ipv6 → Except Fault (List Nat)
  | ⟨pieces, none⟩ => if pieces.length = 8 then .ok pieces else .error .invalidIpv6
  | ⟨pieces, some g⟩ =>
    if pieces.length > 8 then .error .invalidIpv6
    else .ok (pieces.take g ++ List.replicate (8 - pieces.length) 0 ++ pieces.drop g)

/-- An address that does not start with a colon is read piece by piece. -/
theorem parseIpv6_of_pieces {cs : List Char} {s : Ipv6} (hcolon : cs.head? ≠ some ':')
    (hlength : 2 ≤ cs.length) (h : ipv6Pieces (cs.length + 1) ⟨[], none⟩ cs = some s) :
    parseIpv6 cs = gathered s := by
  unfold parseIpv6
  split
  · exact absurd rfl hcolon
  · exact absurd rfl hcolon
  · rw [if_neg (Nat.not_lt.mpr hlength)]
    simp only [Option.bind_some, h]
    obtain ⟨pieces, gap⟩ := s
    cases gap <;> rfl

theorem parseIpv6_of_gap {r : List Char} {s : Ipv6}
    (h : ipv6Pieces (r.length + 1) ⟨[0], some 1⟩ r = some s) :
    parseIpv6 (':' :: ':' :: r) = gathered s := by
  unfold parseIpv6
  simp only [Option.bind_some, h]
  obtain ⟨pieces, gap⟩ := s
  cases gap <;> rfl

/-- Eight pieces without a gap are read as they are. -/
theorem parseIpv6_colons {ps : List Nat} (h : IsIpv6 ps) : parseIpv6 (colons ps) = .ok ps := by
  have hwhole := length_le_colons ps
  have hread := ipv6Pieces_colons (s := ⟨[], none⟩) h.piece (by simp [h.length])
    (Nat.le_succ_of_le hwhole)
  have hne : ps ≠ [] := by
    rintro rfl
    cases h.length
  obtain ⟨c, t, htext, hc⟩ := exists_colons_cons hne
  have hcolon : (colons ps).head? ≠ some ':' := by
    rw [htext]
    simpa using hc
  rw [parseIpv6_of_pieces hcolon (by rw [h.length] at hwhole; omega) hread]
  exact if_pos h.length

section
variable {front back : List Nat} {zeros : Nat}

/-- The zero in place of the gap is followed by the others. -/
theorem gathered_gap (hzeros : 0 < zeros) (hlength : front.length + zeros + back.length = 8) :
    gathered ⟨front ++ [0] ++ back, some (front.length + 1)⟩ =
      .ok (front ++ List.replicate zeros 0 ++ back) := by
  obtain ⟨zeros, rfl⟩ : ∃ n, zeros = n + 1 := ⟨zeros - 1, by omega⟩
  have hcount : (front ++ [0] ++ back).length = 8 - zeros := by
    simp only [List.length_append, List.length_singleton]
    omega
  have hmark : (front ++ [0]).length = front.length + 1 := List.length_append
  rw [gathered, if_neg (by omega), hcount, ← hmark, List.take_left, List.drop_left,
    List.replicate_succ, Nat.sub_sub_self (by omega)]
  simp

/-- Pieces before a gap and behind it are read with zeros between them. -/
theorem parseIpv6_gap (hfront : ∀ p ∈ front, p < 65536) (hback : ∀ p ∈ back, p < 65536)
    (hzeros : 2 ≤ zeros) (hlength : front.length + zeros + back.length = 8) :
    parseIpv6 (colons front ++ ':' :: ':' :: colons back) =
      .ok (front ++ List.replicate zeros 0 ++ back) := by
  have hgathered := gathered_gap (Nat.lt_of_lt_of_le Nat.zero_lt_two hzeros) hlength
  have hbehind := length_le_colons back
  -- a text that opens with the gap is read from behind its two colons
  by_cases hnil : front = []
  · subst hnil
    have hread := ipv6Pieces_colons (s := ⟨[0], some 1⟩) hback (by simp; omega)
      (Nat.le_succ_of_le hbehind)
    exact (parseIpv6_of_gap hread).trans hgathered
  · obtain ⟨c, t, htext, hc⟩ := exists_colons_cons hnil
    have hbefore := length_le_colons front
    generalize hcs : colons front ++ ':' :: ':' :: colons back = cs
    have hcolon : cs.head? ≠ some ':' := by
      rw [← hcs, htext]
      simpa using hc
    have hcount : cs.length = (colons front).length + ((colons back).length + 2) := by
      rw [← hcs, List.length_append]
      rfl
    have hfuel : cs.length + 1 = front.length + (cs.length - front.length + 1) := by omega
    have hread : ipv6Pieces (cs.length + 1) ⟨[], none⟩ cs =
        some ⟨front ++ [0] ++ back, some (front.length + 1)⟩ := by
      rw [hfuel, ← hcs, ipv6Pieces_before_gap hfront hnil (by simp; omega) rfl, hcs,
        ipv6Pieces_colons hback (by simp; omega) (by omega)]
      rfl
    exact (parseIpv6_of_pieces hcolon (by omega) hread).trans hgathered

end

/-- An address is read from its text. -/
theorem parseIpv6_text {ps : List Nat} (h : IsIpv6 ps) :
    parseIpv6 (ipv6Text ps).toList = .ok ps := by
  rw [toList_ipv6Text]
  by_cases hshort : (zeroRun ps).2 < 2
  · rw [if_pos hshort, parseIpv6_colons h]
  · have hzeros := Nat.not_lt.mp hshort
    have hparts := eq_append_zeroRun (Nat.lt_of_lt_of_le Nat.zero_lt_two hzeros)
    have hlength := congrArg List.length hparts
    simp only [h.length, List.length_append, List.length_replicate] at hlength
    rw [if_neg hshort, parseIpv6_gap (fun p hp => h.piece p (List.mem_of_mem_take hp))
      (fun p hp => h.piece p (List.mem_of_mem_drop hp)) hzeros hlength.symm, ← hparts]

/-! ### What is read -/

theorem hexDigit?_lt {c : Char} {d : Nat} (h : hexDigit? c = some d) : d < 16 := by
  unfold hexDigit? at h
  dsimp only at h
  split at h
  · cases h
    omega
  split at h
  · cases h
    omega
  split at h
  · cases h
    omega
  · cases h

/-- With `k` digits still to come, a piece of value `n` stays below `(n + 1) * 16 ^ k`. -/
theorem hexPiece_lt (k n : Nat) (cs : List Char) :
    (hexPiece k n cs).1 < (n + 1) * Nat.pow 16 k := by
  -- on the digits that may still come, with any value so far
  induction k generalizing n cs with
  | zero => simp [hexPiece]
  | succ k ih =>
    have hkept : n < (n + 1) * Nat.pow 16 (k + 1) :=
      Nat.lt_of_lt_of_le (Nat.lt_succ_self n) (Nat.le_mul_of_pos_right _ (Nat.pow_pos (by decide)))
    cases cs with
    | nil => exact hkept
    | cons c cs =>
      rw [hexPiece]
      cases hc : hexDigit? c with
      | none => exact hkept
      | some d =>
        have hd := hexDigit?_lt hc
        have hmore : (n * 16 + d + 1) * Nat.pow 16 k ≤ (n + 1) * 16 * Nat.pow 16 k :=
          Nat.mul_le_mul_right _ (by omega)
        have hpow : (n + 1) * 16 * Nat.pow 16 k = (n + 1) * Nat.pow 16 (k + 1) := by
          rw [Nat.mul_assoc, Nat.mul_comm 16]
          rfl
        exact Nat.lt_of_lt_of_le (ih _ _) (hpow ▸ hmore)

theorem dottedPart?_le {cs : List Char} {n : Nat} (h : dottedPart? cs = some n) : n ≤ 255 := by
  unfold dottedPart? at h
  dsimp only at h
  split at h
  · cases h
  · cases h
    omega

theorem forall_mem_of_mapM {α β : Type} {f : α → Option β} {P : β → Prop}
    (hf : ∀ {x y}, f x = some y → P y) {xs : List α} {ys : List β} (h : xs.mapM f = some ys) :
    ∀ y ∈ ys, P y := by
  induction xs generalizing ys with
  | nil =>
    cases h
    exact fun y hy => absurd hy List.not_mem_nil
  | cons x xs ih =>
    rw [List.mapM_cons] at h
    obtain ⟨y, hy, hrest⟩ := Option.bind_eq_some_iff.mp h
    obtain ⟨rest, hothers, heq⟩ := Option.bind_eq_some_iff.mp hrest
    cases heq
    exact List.forall_mem_cons.mpr ⟨hf hy, ih hothers⟩

/-- The two pieces of a dotted address have 16 bits each. -/
theorem dottedPieces?_lt {cs : List Char} {ps : List Nat} (h : dottedPieces? cs = some ps) :
    ∀ p ∈ ps, p < 65536 := by
  unfold dottedPieces? at h
  split at h
  · next a b c d hparts =>
    have hle : ∀ n ∈ [a, b, c, d], n ≤ 255 := forall_mem_of_mapM dottedPart?_le hparts
    cases h
    simp only [List.forall_mem_cons] at hle ⊢
    exact ⟨by omega, by omega, fun p hp => absurd hp List.not_mem_nil⟩
  · cases h

/-- All pieces have 16 bits, those of a dotted end among them. -/
theorem ipv6Pieces_lt {fuel : Nat} {s s' : Ipv6} {cs : List Char}
    (h : ipv6Pieces fuel s cs = some s') (hs : ∀ p ∈ s.pieces, p < 65536) :
    ∀ p ∈ s'.pieces, p < 65536 := by
  -- on the fuel; all pieces so far are small, and so is each that comes to them
  induction fuel generalizing s cs with
  | zero =>
    cases cs with
    | nil =>
      cases h
      exact hs
    | cons c cs => cases h
  | succ fuel ih =>
    cases cs with
    | nil =>
      cases h
      exact hs
    | cons c cs =>
      have hmore : ∀ p ∈ s.pieces ++ [(hexPiece 4 0 (c :: cs)).1], p < 65536 := by
        have hlt := hexPiece_lt 4 0 (c :: cs)
        exact List.forall_mem_append.mpr ⟨hs, by simpa using hlt⟩
      rw [ipv6Pieces] at h
      split at h
      · cases h
      split at h
      · split at h
        · cases h
        · refine ih h ?_
          exact List.forall_mem_append.mpr ⟨hs, by simp⟩
      · dsimp only at h
        split at h
        · cases h
          exact hmore
        · split at h
          · cases h
          · obtain ⟨ps, hps, rfl⟩ := Option.map_eq_some_iff.mp h
            exact List.forall_mem_append.mpr ⟨hs, dottedPieces?_lt hps⟩
        · split at h
          · cases h
          · exact ih h hmore
        · cases h

/-- Pieces of 16 bits are gathered to an address of eight. -/
theorem isIpv6_of_gathered {s : Ipv6} {ps : List Nat} (h : gathered s = .ok ps)
    (hs : ∀ p ∈ s.pieces, p < 65536) : IsIpv6 ps := by
  obtain ⟨pieces, gap⟩ := s
  cases gap with
  | none =>
    rw [gathered] at h
    split at h
    · next hlength =>
      cases h
      exact ⟨hlength, hs⟩
    · cases h
  | some g =>
    rw [gathered] at h
    split at h
    · cases h
    · cases h
      constructor
      · simp only [List.length_append, List.length_take, List.length_replicate, List.length_drop]
        omega
      · intro p hp
        rcases List.mem_append.mp hp with hp | hp
        · rcases List.mem_append.mp hp with hp | hp
          · exact hs p (List.mem_of_mem_take hp)
          · rw [List.eq_of_mem_replicate hp]
            decide
        · exact hs p (List.mem_of_mem_drop hp)

/-- What is read as an address is one. -/
theorem isIpv6_of_parse {cs : List Char} {ps : List Nat} (h : parseIpv6 cs = .ok ps) :
    IsIpv6 ps := by
  unfold parseIpv6 at h
  dsimp only at h
  split at h
  · cases h
  all_goals
    next hpieces =>
    obtain ⟨start, hstart, hread⟩ := Option.bind_eq_some_iff.mp hpieces
    have hzero : ∀ p ∈ start.1.pieces, p < 65536 := by
      split at hstart
      · cases hstart
        simp
      · cases hstart
      split at hstart
      · cases hstart
      · cases hstart
        simp
    refine isIpv6_of_gathered ?_ (ipv6Pieces_lt hread hzero)
    exact h

end CommandAgent.Url
