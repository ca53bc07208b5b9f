import Mathlib.Data.List.Nodup
import WalletTasks.Json.Decode

/-!
# Objects that hold a record

An object holds a record if it has an entry for every field, which the decoder of the field reads.
The record is then read whatever the order of the entries. `Fields.Reads` is taken apart along the
fields in the way in which they are put together.

* `Fields.Reads.field`, `Fields.Reads.seq`: one field, and the fields of a function with those of
  its argument.
* `Fields.Reads.decoder_eq`: an object that holds a record is read as this record.
-/

namespace WalletTasks.Json

variable {α β : Type}

namespace Fields

/-- The entries hold a record: each field has an entry that it reads, and they make the record. -/
structure Reads (f : Fields α) (o : Origin) (entries : List (String × Source)) (a : α) :
    Prop where
  passes : ∀ c ∈ f.checks, ∃ e ∈ entries, e.1 = c.1 ∧ c.2 o e.2 = .ok ()
  value : ∀ entry : String → Option Source, (∀ e ∈ entries, entry e.1 = some e.2) →
    f.fromObject entry o = .ok a

namespace Reads

variable {o : Origin} {entries entries' : List (String × Source)}

theorem pure (a : α) : (Fields.pure a).Reads o [] a := ⟨by simp [Fields.pure], fun _ _ => rfl⟩

theorem field {name : String} {d : Decoder α} {absent short : Except DecodeError α} {s : Source}
    {a : α} (h : d o s = .ok a) : (Fields.field name d absent short).Reads o [(name, s)] a := by
  refine ⟨?_, ?_⟩
  · intro c hc
    obtain rfl := List.mem_singleton.1 hc
    exact ⟨(name, s), List.mem_singleton_self _, rfl, by simp [h, Except.map]⟩
  · intro entry hentry
    simp only [Fields.field, hentry (name, s) (List.mem_singleton_self _), h]

/-- Fields that are read one after the other read the entries of both. -/
theorem seq {f : Fields (α → β)} {x : Fields α} {g : α → β} {a : α} (hf : f.Reads o entries g)
    (hx : x.Reads o entries' a) : (f <*> x).Reads o (entries ++ entries') (g a) := by
  refine ⟨?_, ?_⟩
  · intro c hc
    rcases List.mem_append.1 hc with hc | hc
    · obtain ⟨e, he, hpass⟩ := hf.passes c hc
      exact ⟨e, List.mem_append_left _ he, hpass⟩
    · obtain ⟨e, he, hpass⟩ := hx.passes c hc
      exact ⟨e, List.mem_append_right _ he, hpass⟩
  · intro entry hentry
    have hg := hf.value entry fun e he => hentry e (List.mem_append_left _ he)
    have ha := hx.value entry fun e he => hentry e (List.mem_append_right _ he)
    show (f.fromObject entry o).bind (fun g => (x.fromObject entry o).bind fun a => .ok (g a)) = _
    rw [hg, ha]
    rfl

theorem map {x : Fields α} {a : α} (g : α → β) (hx : x.Reads o entries a) :
    (g <$> x).Reads o entries (g a) := seq (.pure g) hx

end Reads

/-- Entries of different names pass if each passes every check of its name. -/
theorem checkEntries_eq {f : Fields α} {o : Origin} {entries : List (String × Source)}
    (hnodup : (entries.map Prod.fst).Nodup)
    (hpass : ∀ e ∈ entries, ∀ c ∈ f.checks, c.1 = e.1 → c.2 o e.2 = .ok ()) :
    ∀ seen : List String, (∀ e ∈ entries, e.1 ∉ seen) →
      checkEntries f o seen (entries.map fun e => (some e.1, e.2)) = .ok () := by
  induction entries with
  | nil => exact fun _ _ => rfl
  | cons e entries ih =>
    obtain ⟨hnew, hnodup⟩ := List.nodup_cons.1 hnodup
    have ih := ih hnodup fun e' he' => hpass e' (List.mem_cons_of_mem e he')
    intro seen hseen
    simp only [List.map_cons, checkEntries]
    split
    · exact ih seen fun e' he' => hseen e' (List.mem_cons_of_mem e he')
    · rename_i c hc
      have hname : c.1 = e.1 := by simpa using List.find?_some hc
      have hfirst : seen.contains e.1 = false := by simpa using hseen e List.mem_cons_self
      rw [hfirst, hpass e List.mem_cons_self c (List.mem_of_find?_eq_some hc) hname]
      refine ih (e.1 :: seen) ?_
      intro e' he' hmem
      rcases List.mem_cons.1 hmem with heq | hmem
      · exact hnew (heq ▸ List.mem_map_of_mem he')
      · exact hseen e' (List.mem_cons_of_mem e he') hmem

/-- An entry is found under its name, if the names differ. -/
theorem lookup_eq {entries : List (String × Source)} (hnodup : (entries.map Prod.fst).Nodup)
    {e : String × Source} (he : e ∈ entries) :
    ((entries.map fun e => (some e.1, e.2)).find? fun x => x.1 == some e.1).map (·.2) =
      some e.2 := by
  have hname : ((fun x : Option String × Source => x.1 == some e.1) ∘
      fun e : String × Source => (some e.1, e.2)) = fun e' => decide (e'.1 = e.1) := by
    funext e'
    exact Bool.eq_iff_iff.2 (by simp)
  rw [List.find?_map, hname, find?_key hnodup he]
  rfl

/-- **An object that holds a record is read as this record**, whatever the order of its entries. -/
theorem Reads.decoder_eq {f : Fields α} {o : Origin} {entries entries' : List (String × Source)}
    {a : α} (h : f.Reads o entries a) (hnodup : (entries.map Prod.fst).Nodup)
    (hperm : entries'.Perm entries) :
    f.decoder o (.object (entries'.map fun e => (some e.1, e.2)) none) = .ok a := by
  have hnodup' : (entries'.map Prod.fst).Nodup := (hperm.map Prod.fst).nodup_iff.2 hnodup
  have hpass : ∀ e ∈ entries', ∀ c ∈ f.checks, c.1 = e.1 → c.2 o e.2 = .ok () := by
    intro e he c hc hname
    obtain ⟨e', he', hname', hpass⟩ := h.passes c hc
    rwa [List.inj_on_of_nodup_map hnodup (hperm.mem_iff.1 he) he' (hname ▸ hname'.symm)]
  unfold decoder
  simp only [checkEntries_eq hnodup' hpass [] (by simp), Decoder.cutFault, bind, Except.bind]
  exact h.value _ fun e he => lookup_eq hnodup' (hperm.mem_iff.2 he)

end Fields

end WalletTasks.Json
