import JavaHomes.Text.Decimal

/-!
Laws of decimal numerals. A text denotes a number of 32 bits when it is a nonempty run of digits
with that value, leading zeros included; the reader accepts exactly these texts, and what is written
is one of them.
-/

namespace JavaHomes.Text.Decimal

variable {s : List Char} {n : UInt32}

/-- A nonempty run of ASCII digits with the value `n`. -/
structure Denotes (s : List Char) (n : UInt32) : Prop where
  nonempty : s ≠ []
  digits : ∀ c ∈ s, c.isDigit = true
  value_eq : value s = n.toNat

/-- A numeral has a first digit. -/
theorem Denotes.exists_eq_cons (h : Denotes s n) : ∃ c t, c.isDigit = true ∧ s = c :: t := by
  obtain ⟨c, t, rfl⟩ := List.exists_cons_of_ne_nil h.nonempty
  exact ⟨c, t, h.digits c List.mem_cons_self, rfl⟩

/-- A nonempty run of digits whose value fits denotes a number. -/
theorem exists_denotes_iff :
    (∃ n, Denotes s n) ↔ s ≠ [] ∧ (∀ c ∈ s, c.isDigit = true) ∧ value s ≤ 4294967295 := by
  constructor
  · rintro ⟨n, hne, hdigits, hvalue⟩
    have hn : n.toNat < 4294967296 := n.toNat_lt_size
    exact ⟨hne, hdigits, by omega⟩
  · rintro ⟨hne, hdigits, hvalue⟩
    have hfits : value s < UInt32.size := Nat.lt_succ_of_le hvalue
    exact ⟨UInt32.ofNatLT (value s) hfits, hne, hdigits, (UInt32.toNat_ofNatLT ..).symm⟩

/-! ### Reading -/

theorem read?_eq_some {k : Nat} :
    read? s = some k ↔ s ≠ [] ∧ (∀ c ∈ s, c.isDigit = true) ∧ value s = k := by
  rw [read?, Option.ite_none_left_eq_some, Option.some.injEq]
  simp [and_assoc]

/-- The reader accepts the numerals that fit, each as the number it denotes. -/
theorem readWord?_eq_some : readWord? s = some n ↔ Denotes s n := by
  rw [readWord?]
  constructor
  · intro h
    split at h
    · rename_i k hread
      obtain ⟨hne, hdigits, hvalue⟩ := read?_eq_some.mp hread
      split at h
      · obtain rfl := Option.some.inj h
        exact ⟨hne, hdigits, hvalue.trans (UInt32.toNat_ofNatLT ..).symm⟩
      · cases h
    · cases h
  · rintro ⟨hne, hdigits, hvalue⟩
    rw [read?_eq_some.mpr ⟨hne, hdigits, hvalue⟩]
    simp only [dif_pos n.toNat_lt_size, UInt32.ofNatLT_toNat]

/-! ### Writing -/

theorem isDigit_of_mem_write {k : Nat} {c : Char} (h : c ∈ write k) : c.isDigit = true :=
  Nat.isDigit_of_mem_toDigits (by decide) (by decide) h

theorem denotes_write (n : UInt32) : Denotes (write n.toNat) n where
  nonempty := Nat.toDigits_ne_nil
  digits _ := isDigit_of_mem_write
  value_eq := Nat.ofDigitChars_ten_toDigits

end JavaHomes.Text.Decimal
