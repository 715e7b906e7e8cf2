import UsbHost.Json.Described
import UsbHost.Proofs.Json.Readers

/-! # Values are read as they were written

For a sound schema the reader takes the tokens of each value's JSON form and gives that value
(`Schema.takes`), and the JSON form fits 64 bits and a fixed depth (`Schema.fits`).
-/
namespace UsbHost.Json

/-! ## Sound schemas -/

/-- The names of the members. -/
@[simp] def Fields.names : Fields → List String
  | .nil => []
  | .cons name _ _ rest => name :: rest.names

/-- Whether some value of the shape is written as `null`. -/
@[simp] def Schema.isNullable : Schema → Bool
  | .unit | .optional _ => true
  | _ => false

mutual
/-- Different values are written differently: names differ, `null` is one value only, and numbers
fit 64 bits. -/
@[simp] def Schema.Sound : Schema → Prop
  | .unit | .flag | .int32 | .text | .bytes _ => True
  | .word width => width ≤ 64
  | .choice names => names.Nodup
  | .optional s => s.isNullable = false ∧ s.Sound
  | .list s => s.Sound
  | .record fs => fs.names.Nodup ∧ fs.Sound

/-- The shapes of all members are sound. -/
@[simp] def Fields.Sound : Fields → Prop
  | .nil => True
  | .cons _ _ s rest => s.Sound ∧ rest.Sound
end

mutual
/-- How deep the values of the shape are nested at most. -/
def Schema.depth : Schema → Nat
  | .unit | .flag | .int32 | .text | .word _ | .choice _ => 0
  | .bytes _ => 1
  | .optional s => s.depth
  | .list s => s.depth + 1
  | .record fs => fs.depth + 1

/-- How deep the values of the members are nested at most. -/
def Fields.depth : Fields → Nat
  | .nil => 0
  | .cons _ _ s rest => max s.depth rest.depth
end

theorem Schema.toJson_ne_null {s : Schema} (h : s.isNullable = false) (v : s.Carrier) :
    s.toJson v ≠ .null := by
  cases s <;> simp [isNullable] at h <;> simp [toJson, Json.ofBytes]

/-- What is written as `null` is what stands for a missing member. -/
theorem Schema.zero?_of_null {s : Schema} (h : s.Sound) {v : s.Carrier}
    (hnull : s.toJson v = .null) : s.zero? = some v := by
  cases s with
  | unit => rfl
  | optional s =>
    cases v with
    | none => rfl
    | some v => exact absurd hnull (toJson_ne_null h.1 v)
  | _ => exact absurd hnull (toJson_ne_null rfl v)

/-- A member is written, or it is left out as `null`. -/
theorem Fields.toMembers_cons (name : String) (presence : Presence) (s : Schema) (rest : Fields)
    (v : s.Carrier) (vs : rest.Carrier) :
    (Fields.cons name presence s rest).toMembers (v, vs) =
        (name, s.toJson v) :: rest.toMembers vs ∨
      (Fields.cons name presence s rest).toMembers (v, vs) = rest.toMembers vs ∧
        presence = .omitted ∧ s.toJson v = .null := by
  by_cases h : presence = .omitted ∧ s.toJson v = .null
  · obtain ⟨rfl, hnull⟩ := h
    exact .inr ⟨by rw [Fields.toMembers]; exact hnull, rfl, hnull⟩
  · refine .inl ?_
    rw [Fields.toMembers]
    exact fun hpresence hnull => h ⟨hpresence, hnull⟩

theorem Fields.mem_names {fs : Fields} {vs : fs.Carrier} {m : String × Json}
    (hm : m ∈ fs.toMembers vs) : m.1 ∈ fs.names := by
  match fs, vs with
  | .nil, _ => simp [toMembers] at hm
  | .cons name presence s rest, (v, vs) =>
    rcases toMembers_cons name presence s rest v vs with h | ⟨h, -⟩ <;> rw [h] at hm
    · rcases List.mem_cons.mp hm with rfl | hm
      · exact List.mem_cons_self
      · exact .tail _ (mem_names hm)
    · exact .tail _ (mem_names hm)

/-! ## Reading -/

open Reader (Takes Fills)

theorem Reader.takes_word {width : Nat} (v : BitVec width) :
    Takes (Reader.word width) [.number (.integer v.toNat)] v := by
  refine takes_scalar ?_
  simpa using v.isLt

theorem Reader.takes_int32 (n : Int32) : Takes Reader.int32 [.number (.integer n.toInt)] n := by
  refine takes_scalar ?_
  have hrange : -0x80000000 ≤ n.toInt ∧ n.toInt < 0x80000000 := ⟨n.le_toInt, n.toInt_lt⟩
  dsimp only
  rw [if_pos hrange, Int32.ofInt_toInt]

theorem Reader.takes_bytes (textual : Bool) (bytes : List UInt8) :
    Takes (Reader.bytes textual) (ofBytes bytes).tokens bytes := by
  have hitem : ∀ b ∈ bytes, Takes (UInt8.ofBitVec <$> Reader.word 8)
      [.number (.integer b.toNat)] b := fun b _ => (takes_word b.toBitVec).map UInt8.ofBitVec
  have hlist : Takes (Reader.list (UInt8.ofBitVec <$> Reader.word 8))
      (ofBytes bytes).tokens bytes := by
    have hopens : ∀ b ∈ bytes, Opens [.number (.integer b.toNat)] := fun b _ =>
      ⟨_, [], rfl, by simp, by simp⟩
    simpa [ofBytes, tokens, Function.comp_def] using takes_list hopens hitem
  intro rest
  rw [← hlist rest]
  cases textual with
  | false => rfl
  | true => rw [ofBytes, tokens]; rfl

theorem Reader.takes_choice (kept : Bool) {names : List String} (hnames : names.Nodup)
    (i : Fin names.length) : Takes (Reader.choice kept names) [literal names[i]] i := by
  have hname : choiceName names names[i] = .ok i := by
    have hfind : names.findFinIdx? (· == names[i]) = some i := by
      refine List.findFinIdx?_eq_some_iff.mpr ⟨by simp, fun j hj => ?_⟩
      have hne : j.val ≠ i.val := by omega
      simpa [List.getElem_inj hnames] using hne
    rw [choiceName, hfind]
  refine (takes_token _).bind_nil ?_
  exact (Takes.lift (literalText_literal names[i])).bind_nil (.lift hname)

/-- A reader that does not look for the name of a new member passes members on to the rest. -/
theorem Fields.fills_cons {kept : Bool} {name : String} {presence : Presence} {s : Schema}
    {rest : Fields} {v : Option s.Carrier} {d d' : rest.Draft} {ms : List (String × Json)}
    (h : Fills (rest.readMember kept) d ms d') (hname : ∀ m ∈ ms, m.1 ≠ name) :
    Fills ((Fields.cons name presence s rest).readMember kept) (v, d) ms (v, d') := by
  induction h with
  | nil d => exact .nil (v, d)
  | cons first _ ih =>
    refine .cons ?_ (ih fun m hm => hname m (.tail _ hm))
    rw [Fields.readMember, if_neg (hname _ List.mem_cons_self)]
    exact first.map (v, ·)

mutual
/-- **A value is read as it was written.** -/
theorem Schema.takes (kept : Bool) :
    (s : Schema) → s.Sound → (v : s.Carrier) → Takes (s.read kept) (s.toJson v).tokens v
  | .unit, _, () => by
    rw [Schema.toJson, tokens, Schema.read]
    cases kept <;> exact fun _ => rfl
  | .flag, _, b => by
    rw [Schema.toJson, tokens, Schema.read]
    exact Reader.takes_scalar rfl
  | .word _, _, n => by
    rw [Schema.toJson, tokens, Schema.read]
    exact Reader.takes_word n
  | .int32, _, n => by
    rw [Schema.toJson, tokens, Schema.read]
    exact Reader.takes_int32 n
  | .text, _, t => by
    rw [Schema.toJson, tokens, Schema.read]
    exact Reader.takes_text t
  | .bytes textual, _, bytes => by
    rw [Schema.toJson, Schema.read]
    exact Reader.takes_bytes textual bytes
  | .choice _, hs, i => by
    rw [Schema.toJson, tokens, Schema.read]
    exact Reader.takes_choice kept hs i
  | .optional s, _, none => by
    rw [Schema.toJson, tokens, Schema.read]
    exact fun _ => rfl
  | .optional s, hs, some v => by
    rw [Schema.toJson, Schema.read]
    have h := (Schema.takes kept s hs.2 v).map some
    -- The first token tells a value from `null`, because no value of `s` is written so.
    have hnull := Schema.toJson_ne_null hs.1 v
    obtain ⟨ts, hts⟩ := (s.toJson v).tokens_eq_cons
    rw [hts] at h ⊢
    intro rest
    refine Eq.trans ?_ (h rest)
    generalize s.toJson v = written at hnull
    cases written <;> first | contradiction | rfl
  | .list s, hs, vs => by
    rw [Schema.toJson, tokens, Schema.read, List.map_map]
    exact Reader.takes_list (fun v _ => Reader.opens_tokens _) fun v _ => Schema.takes kept s hs v
  | .record fs, hs, vs => by
    obtain ⟨d, hfills, hcomplete⟩ := Fields.fills kept fs hs.2 hs.1 vs
    rw [Schema.toJson, tokens_object, Schema.read]
    refine (Reader.takes_token .openObject).bind (.enough fun fuel hfuel => ?_)
    refine (hfills.takes hfuel).bind_nil ?_
    rw [hcomplete]
    exact .pure vs

/-- The members of a record fill a draft of it. -/
theorem Fields.fills (kept : Bool) :
    (fs : Fields) → fs.Sound → fs.names.Nodup → (vs : fs.Carrier) →
      ∃ d, Fills (fs.readMember kept) fs.blank (fs.toMembers vs) d ∧ fs.complete? d = some vs
  | .nil, _, _, () => ⟨(), .nil (), rfl⟩
  | .cons name presence s rest, hfs, hnames, (v, vs) => by
    obtain ⟨hnew, hnodup⟩ := List.nodup_cons.mp hnames
    obtain ⟨d, hfills, hcomplete⟩ := Fields.fills kept rest hfs.2 hnodup vs
    have hother : ∀ m ∈ rest.toMembers vs, m.1 ≠ name := fun m hm h =>
      hnew (h ▸ Fields.mem_names hm)
    -- A member that was left out is missing in the draft, and what stands for it is its value.
    rcases Fields.toMembers_cons name presence s rest v vs with h | ⟨h, rfl, hnull⟩
    · refine ⟨(some v, d), ?_, by simp [Fields.complete?, hcomplete]⟩
      rw [h]
      refine .cons ?_ (Fields.fills_cons hfills hother)
      rw [Fields.readMember, if_pos rfl]
      exact (Reader.takes_exactly .colon).bind ((Schema.takes kept s hfs.1 v).bind_nil (.pure _))
    · refine ⟨(none, d), h ▸ Fields.fills_cons hfills hother, ?_⟩
      simp [Fields.complete?, hcomplete, Presence.fallback?, Schema.zero?_of_null hfs.1 hnull]
end

/-! ## Bounds -/

theorem Fits.mono {depth depth' : Nat} {v : Json} (h : Fits depth v) (hle : depth ≤ depth') :
    Fits depth' v := by
  induction h generalizing depth' with
  | null => exact .null
  | bool b => exact .bool b
  | number low high => exact .number low high
  | string s => exact .string s
  | array _ ih =>
    obtain ⟨depth', rfl⟩ := Nat.exists_eq_succ_of_ne_zero (Nat.ne_zero_of_lt hle)
    exact .array fun v hv => ih v hv (Nat.le_of_succ_le_succ hle)
  | object _ ih =>
    obtain ⟨depth', rfl⟩ := Nat.exists_eq_succ_of_ne_zero (Nat.ne_zero_of_lt hle)
    exact .object fun m hm => ih m hm (Nat.le_of_succ_le_succ hle)

mutual
/-- The values of a sound shape fit 64 bits and the depth of the shape. -/
theorem Schema.fits : (s : Schema) → s.Sound → (v : s.Carrier) → Fits s.depth (s.toJson v)
  | .unit, _, () => .null
  | .flag, _, b => .bool b
  | .word width, hs, n => by
    have hlt := Nat.lt_of_lt_of_le n.isLt (Nat.pow_le_pow_right (by decide) hs)
    exact .number (by omega) (by omega)
  | .int32, _, n => by
    have hlow := n.le_toInt
    have hhigh := n.toInt_lt
    exact .number (by omega) (by omega)
  | .text, _, t => .string t
  | .bytes _, _, bytes => by
    refine .array fun v hv => ?_
    obtain ⟨b, -, rfl⟩ := List.mem_map.mp hv
    have hlt := b.toNat_lt
    exact .number (by omega) (by omega)
  | .choice _, _, _ => .string _
  | .optional _, _, none => .null
  | .optional s, hs, some v => Schema.fits s hs.2 v
  | .list s, hs, vs => by
    refine .array fun v hv => ?_
    obtain ⟨v, -, rfl⟩ := List.mem_map.mp hv
    exact Schema.fits s hs v
  | .record fs, hs, vs => .object (Fields.fits fs hs.2 vs)

theorem Fields.fits :
    (fs : Fields) → fs.Sound → (vs : fs.Carrier) → ∀ m ∈ fs.toMembers vs, Fits fs.depth m.2
  | .nil, _, () => nofun
  | .cons name presence s rest, hfs, (v, vs) => by
    have hrest : ∀ m ∈ rest.toMembers vs, Fits (max s.depth rest.depth) m.2 := fun m hm =>
      (Fields.fits rest hfs.2 vs m hm).mono (Nat.le_max_right ..)
    intro m hm
    rcases Fields.toMembers_cons name presence s rest v vs with h | ⟨h, -⟩ <;> rw [h] at hm
    · rcases List.mem_cons.mp hm with rfl | hm
      · exact (Schema.fits s hfs.1 v).mono (Nat.le_max_left ..)
      · exact hrest m hm
    · exact hrest m hm
end

end UsbHost.Json
