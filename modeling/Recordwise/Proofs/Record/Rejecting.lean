/-
  Recordwise.Proofs.Record.Rejecting
  ──────────────────────────────────
  **Codecs fail as codecs.**

  Whatever the bytes, reading a record fails only with a decode failure;
  whatever the binding, writing one fails only with an encode failure.  Main
  statements:

      decode_failsWith — reading
      encode_failsWith — writing
-/
import Recordwise.Proofs.Failure.FailsWith
import Recordwise.Record.Codec

namespace Recordwise

/-- A raw record cannot be read. -/
def Failure.IsDecode (f : Failure) : Prop := ∃ d, f = .decode d

/-- An output record cannot be written. -/
def Failure.IsEncode (f : Failure) : Prop := ∃ d, f = .encode d

open Failure

/-! ## §1. Reading. -/

theorem Charset.decode_failsWith (charset : Charset) (bytes : List UInt8) :
    FailsWith IsDecode (charset.decode bytes) := by
  unfold decode
  cases charset with
  | latin1 => exact .ok _
  | utf8 =>
      dsimp only
      cases Text.Utf8.decode bytes with
      | ok cs => exact .ok cs
      | error fault => exact .error ⟨_, rfl⟩

namespace Record

theorem readDelimited_failsWith (delimiter esc : Char) (fields : List Field) (cs : List Char) :
    FailsWith IsDecode (readDelimited delimiter esc fields cs) := by
  unfold readDelimited
  cases splitEscaped delimiter esc cs with
  | none => exact .error ⟨_, rfl⟩
  | some parts =>
      by_cases more : parts.length > fields.length
      · simp only [more, if_true]
        exact .error ⟨_, rfl⟩
      · simp only [more, if_false]
        exact .ok _

theorem resolveEscapes_failsWith (cs : List Char) : FailsWith IsDecode (resolveEscapes cs) := by
  unfold resolveEscapes
  cases unescape cs with
  | some r => exact .ok r
  | none => exact .error ⟨_, rfl⟩

theorem readEntry_failsWith (pair : Char) (fields : List Field) (b : Binding)
    (entry : List Char) : FailsWith IsDecode (readEntry pair fields b entry) := by
  unfold readEntry
  by_cases empty : entry = []
  · rw [if_pos empty]
    exact .ok b
  · rw [if_neg empty]
    cases splitEntry pair entry with
    | none => exact .error ⟨_, rfl⟩
    | some parts =>
        refine (resolveEscapes_failsWith parts.1).bind fun key _ => ?_
        by_cases known : fields.any (·.name == String.ofList key) = true
        · simp only [known, if_true]
          exact (resolveEscapes_failsWith parts.2).bind fun v _ => .ok _
        · simp only [known]
          exact .ok b

theorem readKeyed_failsWith (entry pair : Char) (fields : List Field) (cs : List Char) :
    FailsWith IsDecode (readKeyed entry pair fields cs) := by
  unfold readKeyed
  by_cases empty : cs = []
  · rw [if_pos empty]
    exact .ok _
  · rw [if_neg empty]
    exact .foldlM (fun b e _ => readEntry_failsWith pair fields b e) _

/-! ## §2. Writing. -/

theorem resolveField_failsWith (f : Field) (b : Binding) :
    FailsWith IsEncode (resolveField f b) := by
  unfold resolveField
  cases (b.get? f.name).bind Value.text? with
  | some s => exact .ok _
  | none =>
      cases f.default? with
      | some d => exact .ok _
      | none =>
          cases f.required with
          | true => exact .error ⟨_, rfl⟩
          | false => exact .ok _

end Record

theorem Charset.checkEncodable_failsWith (charset : Charset) (cs : List Char) :
    FailsWith IsEncode (charset.checkEncodable cs) := by
  unfold checkEncodable
  cases cs.find? fun c => !charset.has c with
  | some c => exact .error ⟨_, rfl⟩
  | none => exact .ok ()

/-! ## §3. Codecs. -/

namespace Codec

/-- **Reading fails only with a decode failure.** -/
theorem decode_failsWith (codec : Codec) (bytes : List UInt8) :
    FailsWith IsDecode (codec.decode bytes) := by
  refine (Charset.decode_failsWith codec.charset bytes).bind fun cs _ => ?_
  unfold readText
  cases codec.layout with
  | delimited delimiter esc => exact Record.readDelimited_failsWith delimiter esc codec.fields _
  | keyed entry pair => exact Record.readKeyed_failsWith entry pair codec.fields _

theorem writeText_failsWith (codec : Codec) (b : Binding) :
    FailsWith IsEncode (codec.writeText b) := by
  unfold writeText
  cases codec.layout with
  | delimited delimiter esc =>
      refine FailsWith.map (.mapM fun f _ => ?_) _
      exact (Record.resolveField_failsWith f b).map _
  | keyed entry pair =>
      refine FailsWith.map (.mapM fun f _ => ?_) _
      exact (Record.resolveField_failsWith f b).map _

/-- **Writing fails only with an encode failure.** -/
theorem encode_failsWith (codec : Codec) (b : Binding) :
    FailsWith IsEncode (codec.encode b) := by
  refine (codec.writeText_failsWith b).bind fun cs _ => ?_
  exact (Charset.checkEncodable_failsWith codec.charset cs).bind fun _ _ => .ok _

end Codec

end Recordwise
