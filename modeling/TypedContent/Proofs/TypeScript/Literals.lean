import TypedContent.TypeScript.Literal

/-!
# Reading string literals

`readLiteral` reads a literal up to the quote that closes it and resolves its escapes.
`readLiteral_escapeLiteral`: a text that was escaped for its quote is read back as it was, and the
literal ends at the quote that was put behind it.
-/

namespace TypedContent.TypeScript

/-- Reads a literal from behind its opening quote: its text, and what is left behind the closing
quote.  No escapes but those of the backslash and the quote are known. -/
def readLiteral (quote : Char) : List Char → Option (List Char × List Char)
  | [] => none
  | '\\' :: c :: rest =>
    if c = '\\' ∨ c = quote then (readLiteral quote rest).map fun x => (c :: x.1, x.2) else none
  | c :: rest =>
    if c = quote then some ([], rest) else (readLiteral quote rest).map fun x => (c :: x.1, x.2)

variable {quote : Char}

theorem readLiteral_quote (hq : quote ≠ '\\') (rest : List Char) :
    readLiteral quote (quote :: rest) = some ([], rest) := by
  unfold readLiteral
  split <;> simp_all

theorem readLiteral_escapeLiteralChar (c : Char) (s : List Char) :
    readLiteral quote (escapeLiteralChar quote c ++ s) =
      (readLiteral quote s).map fun x => (c :: x.1, x.2) := by
  unfold escapeLiteralChar
  by_cases hc : c = '\\' ∨ c = quote
  · rw [if_pos hc]
    simp [readLiteral, hc]
  · rw [if_neg hc]
    obtain ⟨hslash, hquote⟩ := not_or.mp hc
    simp [readLiteral, hslash, hquote]

/-- What was escaped is read back. -/
theorem readLiteral_escapeLiteral (hq : quote ≠ '\\') (s : String) (rest : List Char) :
    readLiteral quote ((escapeLiteral quote s).toList ++ quote :: rest) =
      some (s.toList, rest) := by
  rw [escapeLiteral, String.toList_ofList]
  induction s.toList with
  | nil => exact readLiteral_quote hq rest
  | cons c cs ih =>
    rw [List.flatMap_cons, List.append_assoc, readLiteral_escapeLiteralChar, ih, Option.map_some]

/-- Nothing is done to a text without backslashes and quotes. -/
theorem escapeLiteral_eq_self {s : String} (h : ∀ c ∈ s.toList, c ≠ '\\' ∧ c ≠ quote) :
    escapeLiteral quote s = s := by
  have hself (cs : List Char) (hcs : ∀ c ∈ cs, c ≠ '\\' ∧ c ≠ quote) :
      cs.flatMap (escapeLiteralChar quote) = cs := by
    induction cs with
    | nil => rfl
    | cons c cs ih =>
      obtain ⟨hslash, hquote⟩ := hcs c List.mem_cons_self
      rw [List.flatMap_cons, ih fun d hd => hcs d (List.mem_cons_of_mem c hd), escapeLiteralChar,
        if_neg (not_or.mpr ⟨hslash, hquote⟩)]
      rfl
  rw [escapeLiteral, hself _ h, String.ofList_toList]

end TypedContent.TypeScript
