import WalletTasks.Proofs.Reading
import WalletTasks.Proofs.Records
import WalletTasks.Wire.Scalar

/-!
# Values that are restored

A decoder restores a value if it reads the value from what it is written as. `Json.Restores` is
taken apart along the decoder in the way in which it is put together, so that a record comes down to
its fields and a field to its scalar.

* `Json.Restores.decodeText`: a value that is restored is decoded from its compact text.
* `Fields.Restores.decoder`: a record is restored if its fields are.
* `Wire.restores_wei`, `Wire.restores_identifier`: the scalars that are written as strings.
-/

namespace WalletTasks

namespace Json

variable {α β : Type}

/-- A decoder reads a value from a tree whose numbers a text may hold. -/
structure Restores (d : Decoder α) (j : Json) (a : α) : Prop where
  fits : j.Fits
  reads : d .text j.source = .ok a

namespace Restores

variable {d : Decoder α} {j : Json} {a : α} {b : β}

/-- What is restored is read back from its text. -/
theorem decodeText (h : Restores d j a) : decodeText d j.compact = .ok a := by
  rw [decodeText_eq_ok_iff, compact, String.toList_ofList, Source.read_write h.fits]
  exact ⟨h.reads, rfl⟩

theorem string (s : String) : Restores Decoder.string (.string s) s := ⟨trivial, rfl⟩

theorem bool (b : Bool) : Restores Decoder.bool (.bool b) b := ⟨trivial, rfl⟩

/-- A refinement is restored where it succeeds. -/
theorem refine {f : α → Except DecodeError β} (h : Restores d j a) (hf : f a = .ok b) :
    Restores (Decoder.refine d f) j b :=
  ⟨h.fits, by rw [Decoder.refine, h.reads]; exact hf⟩

theorem map (f : α → β) (h : Restores d j a) : Restores (Decoder.map f d) j (f a) :=
  ⟨h.fits, by rw [Decoder.map, h.reads]; rfl⟩

theorem parsed {read? : String → Option α} {s : String} (h : read? s = some a) :
    Restores (Decoder.parsed read?) (.string s) a :=
  (string s).refine (by rw [h])

/-- A number below a bound of at most 64 bits is restored. -/
theorem natBelow {bound n : Nat} (hn : n < bound) (hbound : bound ≤ 2 ^ 64) :
    Restores (Decoder.natBelow bound) (.nat n) ⟨n, hn⟩ := by
  refine ⟨⟨by omega, by omega⟩, ?_⟩
  show (if h : (0 : Int) ≤ n ∧ (n : Int).toNat < bound then _ else _) = _
  rw [dif_pos ⟨Int.natCast_nonneg n, hn⟩]
  rfl

/-- A value that is never written as null may be absent. -/
theorem option {encode : α → Json} {x : Option α} (hnull : ∀ a, encode a ≠ .null)
    (h : ∀ a, x = some a → Restores d (encode a) a) :
    Restores (Decoder.option d) (.option encode x) x := by
  cases x with
  | none => exact ⟨trivial, rfl⟩
  | some a =>
    obtain ⟨hfits, hreads⟩ := h a rfl
    refine ⟨hfits, ?_⟩
    have hnotNull := hnull a
    have heq : Decoder.option d .text (encode a).source = (d .text (encode a).source).map some := by
      cases hj : encode a with
      | null => exact absurd hj hnotNull
      | _ => rfl
    exact heq.trans (by rw [hreads]; rfl)

/-- A choice is restored from its label. -/
theorem choice [Labelled α] (h : Labelled.ofLabel? (Labelled.label a) = some a) :
    Restores (Json.choice α) (.string (Labelled.label a)) a :=
  ⟨trivial, by simp only [source, Json.choice, variants, h]; rfl⟩

/-- A choice with content is restored from its label and its content. -/
theorem variants {labels : List String} {bare : String → Option (Except DecodeError α)}
    {content : String → Option (Decoder α)} {k : String} (hk : content k = some d)
    (h : Restores d j a) : Restores (Json.variants labels bare content) (.object [(k, j)]) a := by
  refine ⟨⟨h.fits, trivial⟩, ?_⟩
  simp only [source, sourceFields, Json.variants, hk, h.reads]
  rfl

end Restores

/-! ## Records -/

theorem fitsFields_iff {fields : List (String × Json)} :
    FitsFields fields ↔ ∀ e ∈ fields, e.2.Fits := by
  induction fields with
  | nil => simp [FitsFields]
  | cons e fields ih => simp [FitsFields, ih]

theorem sourceFields_eq (fields : List (String × Json)) :
    sourceFields fields = (fields.map fun e => (e.1, e.2.source)).map fun e => (some e.1, e.2) := by
  induction fields with
  | nil => rfl
  | cons e fields ih => simp [sourceFields, ih]

/-- The fields of a record are read from the fields of an object. -/
structure Fields.Restores (f : Fields α) (fields : List (String × Json)) (a : α) : Prop where
  fits : ∀ e ∈ fields, e.2.Fits
  reads : f.Reads .text (fields.map fun e => (e.1, e.2.source)) a

namespace Fields.Restores

variable {a : α}

theorem pure (a : α) : (Fields.pure a).Restores [] a := ⟨by simp, .pure a⟩

theorem field {name : String} {d : Decoder α} {absent short : Except DecodeError α} {j : Json}
    (h : Json.Restores d j a) : (Fields.field name d absent short).Restores [(name, j)] a :=
  ⟨by simpa using h.fits, .field h.reads⟩

/-- Fields are restored one after the other. -/
theorem seq {f : Fields (α → β)} {x : Fields α} {fields fields' : List (String × Json)} {g : α → β}
    (hf : f.Restores fields g) (hx : x.Restores fields' a) :
    (f <*> x).Restores (fields ++ fields') (g a) := by
  refine ⟨fun e he => ?_, by rw [List.map_append]; exact hf.reads.seq hx.reads⟩
  rcases List.mem_append.1 he with he | he
  · exact hf.fits e he
  · exact hx.fits e he

theorem map {x : Fields α} {fields : List (String × Json)} (g : α → β) (hx : x.Restores fields a) :
    (g <$> x).Restores fields (g a) := ⟨hx.fits, hx.reads.map g⟩

/-- **A record is restored** if its fields are, and have different names. -/
theorem decoder {f : Fields α} {fields : List (String × Json)} (h : f.Restores fields a)
    (hnodup : (fields.map Prod.fst).Nodup) : Json.Restores f.decoder (.object fields) a := by
  refine ⟨fitsFields_iff.2 h.fits, ?_⟩
  rw [source, sourceFields_eq]
  refine h.reads.decoder_eq ?_ (List.Perm.refl _)
  rw [List.map_map]
  exact hnodup

end Fields.Restores

end Json

/-! ## Scalars -/

namespace Wire

open Json

theorem restores_uint64 (n : UInt64) : Restores Decoder.uint64 (uint64 n) n := by
  have hrestores := (Restores.natBelow n.toNat_lt (Nat.le_refl _)).map
    fun n : { n : Nat // n < UInt64.size } => UInt64.ofNatLT n.1 n.2
  rwa [UInt64.ofNatLT_toNat] at hrestores

theorem restores_uint32 (n : UInt32) : Restores Decoder.uint32 (.nat n.toNat) n := by
  have hrestores := (Restores.natBelow n.toNat_lt (by decide)).map
    fun n : { n : Nat // n < UInt32.size } => UInt32.ofNatLT n.1 n.2
  rwa [UInt32.ofNatLT_toNat] at hrestores

theorem restores_wei (w : Wei) : Restores weiDecoder (wei w) w :=
  (Restores.string w.text).refine (by rw [weiOfString, readWei_text]; rfl)

/-- A decimal is restored with its scale. -/
theorem restores_decimal (d : Decimal) : Restores decimalDecoder (decimal d) d :=
  ⟨trivial, by simp only [decimal, source, decimalDecoder, d.read?_toString]⟩

theorem restores_identifier (i : Identifier) : Restores identifierDecoder (identifier i) i :=
  .parsed i.read?_text

/-- An instant is restored if its own text is read back. -/
theorem restores_instant {t : Instant} (h : Instant.read? t.text = some t) :
    Restores instantDecoder (instant t) t :=
  .parsed h

end Wire

end WalletTasks
