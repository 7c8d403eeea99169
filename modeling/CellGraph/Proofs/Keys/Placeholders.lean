import CellGraph.Book.Keys
import CellGraph.Proofs.Parsing.Flat

/-!
# Placeholders, token by token

A formula gets its placeholders in its tree, but the tree does not matter: whatever is written for
references and ranges, the text of the tree is that of a single pass over the tokens
(`Parser.writeAll_run`). In that pass a token that is no reference stays as it is, and a reference
takes over a sheet only as the last end of a range (`write_token_by_token`).
-/

namespace CellGraph

namespace Token
variable (ref : Ref → Text) (range : Ref → Ref → Text)

/-- The texts of tokens, with other texts for references and for ranges. Ranges are found from left
to right, so the last end of one does not start another. -/
def rewritten : List Token → Text
  | .ref a :: .colon :: .ref b :: ts => range a b ++ rewritten ts
  | .ref r :: ts => ref r ++ rewritten ts
  | t :: ts => t.text ++ rewritten ts
  | [] => []

end Token

/-! ## The text of a tree is that of a pass over the tokens -/

namespace Parser

open Node (writeAll writeArgs writeAll_append closing)

variable {ref : Ref → Text} {range : Ref → Ref → Text}

/-- What is written for an open bracket, and for all that is complete before and inside it. -/
def Frame.written (ref : Ref → Text) (range : Ref → Ref → Text) : Frame → Text
  | .group before => writeAll ref range before.reverse ++ ['(']
  | .call before name args =>
    writeAll ref range before.reverse ++ name ++ '(' ::
      args.reverse.flatMap fun arg => writeAll ref range arg ++ [',']

/-- What is written for all that has been read. -/
def stateWritten (ref : Ref → Text) (range : Ref → Ref → Text) (frames : List Frame)
    (now : List Node) : Text :=
  frames.reverse.flatMap (Frame.written ref range) ++ writeAll ref range now.reverse

theorem writeArgs_append (args : List (List Node)) (arg : List Node) :
    writeArgs ref range (args ++ [arg]) =
      (args.flatMap fun a => writeAll ref range a ++ [',']) ++ writeAll ref range arg := by
  induction args with
  | nil => simp [writeArgs]
  | cons a args ih =>
    cases args with
    | nil => simp [writeArgs]
    | cons b args => simp_all [writeArgs]

theorem writeAll_single (n : Node) : writeAll ref range [n] = n.write ref range := by
  simp [writeAll]

theorem writeAll_finish (closed : Bool) (now : List Node) (frame : Frame) :
    writeAll ref range (frame.finish closed now).reverse =
      frame.written ref range ++ writeAll ref range now.reverse ++ closing closed := by
  cases frame with
  | group before =>
    simp [Frame.finish, Frame.written, writeAll_append, writeAll_single, Node.write]
  | call before name args =>
    simp [Frame.finish, Frame.written, writeAll_append, writeAll_single, Node.write,
      writeArgs_append]

theorem stateWritten_cons (frames : List Frame) (now : List Node) (n : Node) :
    stateWritten ref range frames (n :: now) =
      stateWritten ref range frames now ++ n.write ref range := by
  simp [stateWritten, writeAll_append, writeAll_single]

theorem writeAll_finishAll (frames : List Frame) (now : List Node) :
    writeAll ref range (finishAll frames now) = stateWritten ref range frames now := by
  induction frames generalizing now with
  | nil => simp [finishAll, stateWritten]
  | cons frame frames ih =>
    rw [finishAll, ih]
    simp [stateWritten, writeAll_finish, closing]

/-- One token after another is written behind what has been read, whatever brackets are open. -/
theorem writeAll_run (ts : List Token) (frames : List Frame) (now : List Node) :
    writeAll ref range (run ts frames now) =
      stateWritten ref range frames now ++ Token.rewritten ref range ts := by
  fun_induction run ts frames now with
  | case1 frames now => simp [writeAll_finishAll, Token.rewritten]
  | case2 a b ts frames now ih =>
    rw [ih, stateWritten_cons]
    simp [Node.write, Token.rewritten]
  | case3 r ts frames now noRange ih =>
    rw [ih, stateWritten_cons, Token.rewritten.eq_2 ref range r ts noRange]
    simp [Node.write]
  | case4 name ts frames now ih =>
    rw [ih]
    simp [stateWritten, Frame.written, Token.rewritten, Token.text, writeAll]
  | case5 ts frames now ih =>
    rw [ih]
    simp [stateWritten, Frame.written, Token.rewritten, Token.text, writeAll]
  | case6 ts frame frames now ih =>
    rw [ih]
    simp [stateWritten, writeAll_finish, closing, Token.rewritten, Token.text]
  | case7 ts before name args frames now ih =>
    rw [ih]
    simp [stateWritten, Frame.written, Token.rewritten, Token.text, writeAll]
  | case8 t ts frames now noRange noRef _ _ _ _ ih =>
    rw [ih, stateWritten_cons, Token.rewritten.eq_3 ref range t ts noRange noRef]
    simp [Node.write]

/-- What is written for the tree of a formula is written token by token. -/
theorem writeAll_parse (formula : Text) :
    writeAll ref range (parse formula) = Token.rewritten ref range (Token.tokens formula) := by
  rw [parse, ofTokens, writeAll_run]
  rfl

end Parser

/-! ## Ranges among tokens -/

namespace Token

/-- Whether a reference, a colon and a reference stand at the start. -/
def beginsRange : List Token → Bool
  | .ref _ :: .colon :: .ref _ :: _ => true
  | _ => false

/-- Whether the token at a place is the first end of a range. Where three references stand with
colons between them, the one in the middle ends a range and starts none. -/
def startsRange (ts : List Token) : Nat → Bool
  | i + 2 => beginsRange (ts.drop (i + 2)) && !startsRange ts i
  | i => beginsRange (ts.drop i)

def sheet? : Token → Option Text
  | .ref r => r.sheet
  | _ => none

/-- The sheet that the token at a place takes over: the last end of a range that of the first, and
no other token any. -/
def takenSheet (ts : List Token) : Nat → Option Text
  | i + 2 => if startsRange ts i then ts[i]?.bind sheet? else none
  | _ => none

theorem startsRange_cons {t : Token} {ts : List Token} (noRange : beginsRange (t :: ts) = false) :
    ∀ i, startsRange (t :: ts) (i + 1) = startsRange ts i
  | 0 => rfl
  | 1 => by simp [startsRange, noRange]
  | i + 2 => by
    show (beginsRange (ts.drop (i + 2)) && !startsRange (t :: ts) (i + 1)) = startsRange ts (i + 2)
    rw [startsRange_cons noRange i, startsRange]

theorem startsRange_behind (a b : Ref) (ts : List Token) :
    ∀ i, startsRange (.ref a :: .colon :: .ref b :: ts) (i + 3) = startsRange ts i
  | 0 => by simp [startsRange, beginsRange]
  | 1 => by simp [startsRange, beginsRange]
  | i + 2 => by
    show (beginsRange (ts.drop (i + 2)) &&
      !startsRange (.ref a :: .colon :: .ref b :: ts) (i + 3)) = startsRange ts (i + 2)
    rw [startsRange_behind a b ts i, startsRange]

theorem takenSheet_cons {t : Token} {ts : List Token} (noRange : beginsRange (t :: ts) = false) :
    ∀ i, takenSheet (t :: ts) (i + 1) = takenSheet ts i
  | 0 => rfl
  | 1 => by simp [takenSheet, startsRange, noRange]
  | i + 2 => by simp [takenSheet, startsRange_cons noRange]

theorem takenSheet_behind (a b : Ref) (ts : List Token) :
    ∀ i, takenSheet (.ref a :: .colon :: .ref b :: ts) (i + 3) = takenSheet ts i
  | 0 => by simp [takenSheet, startsRange, beginsRange]
  | 1 => by simp [takenSheet, startsRange, beginsRange]
  | i + 2 => by simp [takenSheet, startsRange_behind]

example : (List.range 5).map (takenSheet (tokens "In!B1:B2:B3")) =
    [none, none, some "In".toList, none, none] := by decide +kernel

end Token

/-! ## Placeholders -/

namespace SheetKeys

/-- What stands for a token that takes over a sheet: a placeholder for a reference to a known sheet,
and the token as written otherwise. -/
def replaced (k : SheetKeys) (current : Text) (taken : Option Text) : Token → Text
  | .ref r =>
    match k.resolve? r current taken with
    | some key => placeholder key
    | none => r.text
  | t => t.text

theorem replaced_ref (k : SheetKeys) (current : Text) (taken : Option Text) (r : Ref) :
    k.replaced current taken (.ref r) = k.wrap current taken r := rfl

theorem replaced_colon (k : SheetKeys) (current : Text) (taken : Option Text) :
    k.replaced current taken .colon = [':'] := rfl

theorem replaced_of_not_ref (k : SheetKeys) (current : Text) (taken : Option Text) {t : Token}
    (noRef : ∀ r, t = .ref r → False) : k.replaced current taken t = t.text :=
  replaced.eq_2 k current taken t noRef

/-- The texts of tokens in a formula with placeholders, one after another. -/
def replacedAll (k : SheetKeys) (current : Text) (ts : List Token) : Text :=
  ts.zipIdx.flatMap fun (t, i) => k.replaced current (Token.takenSheet ts i) t

variable {k : SheetKeys} {current : Text}

/-- Tokens that take over the same sheets as without what stands before them are replaced as
without it. -/
theorem flatMap_shifted {ts us : List Token} {n : Nat}
    (shifted : ∀ i, Token.takenSheet us (i + n) = Token.takenSheet ts i) :
    ((ts.zipIdx n).flatMap fun (t, i) => k.replaced current (Token.takenSheet us i) t) =
      k.replacedAll current ts := by
  rw [replacedAll, List.zipIdx_eq_map_add, List.flatMap_map]
  simp only [Nat.add_comm n, shifted]

theorem replacedAll_range (a b : Ref) (ts : List Token) :
    k.replacedAll current (.ref a :: .colon :: .ref b :: ts) =
      k.wrap current none a ++ ':' :: k.wrap current a.sheet b ++ k.replacedAll current ts := by
  have first : Token.takenSheet (.ref a :: .colon :: .ref b :: ts) 0 = none := rfl
  have last : Token.takenSheet (.ref a :: .colon :: .ref b :: ts) 2 = a.sheet := rfl
  rw [← flatMap_shifted (Token.takenSheet_behind a b ts), replacedAll]
  simp only [List.zipIdx_cons, List.flatMap_cons, Nat.zero_add, Nat.reduceAdd, first, last,
    replaced_ref, replaced_colon, List.append_assoc, List.cons_append, List.nil_append]

theorem replacedAll_cons {t : Token} {ts : List Token}
    (noRange : Token.beginsRange (t :: ts) = false) :
    k.replacedAll current (t :: ts) = k.replaced current none t ++ k.replacedAll current ts := by
  have first : Token.takenSheet (t :: ts) 0 = none := rfl
  rw [← flatMap_shifted (Token.takenSheet_cons noRange), replacedAll]
  simp only [List.zipIdx_cons, List.flatMap_cons, Nat.zero_add, first]

theorem rewritten_eq_replacedAll (ts : List Token) :
    Token.rewritten (k.wrap current none)
        (fun a b => k.wrap current none a ++ ':' :: k.wrap current a.sheet b) ts =
      k.replacedAll current ts := by
  fun_induction Token.rewritten _ _ ts with
  | case1 a b ts ih => rw [replacedAll_range, ih]
  | case2 r ts noRange ih =>
    have single : Token.beginsRange (.ref r :: ts) = false := by
      refine Token.beginsRange.eq_2 _ ?_
      rintro a b us ⟨⟩
      exact noRange b us rfl
    rw [replacedAll_cons single, ih, replaced_ref]
  | case3 t ts noRange noRef ih =>
    have single : Token.beginsRange (t :: ts) = false := by
      refine Token.beginsRange.eq_2 _ ?_
      rintro a b us ⟨⟩
      exact noRef a rfl
    rw [replacedAll_cons single, ih, replaced_of_not_ref k current none noRef]
  | case4 => rfl

/-- For every formula, all lists of sheets and every current sheet: the formula with placeholders
is the texts of its tokens one after another, in which each reference to a known sheet is replaced
by the placeholder of its cell and all else, references to unknown sheets included, stays as
written. Only a reference that ends a range takes over a sheet, namely that of the first end. -/
theorem write_token_by_token (k : SheetKeys) (current formula : Text) :
    k.write current formula =
      (Token.tokens formula).zipIdx.flatMap fun (t, i) =>
        k.replaced current (Token.takenSheet (Token.tokens formula) i) t := by
  rw [write, writeTree, Parser.writeAll_parse, rewritten_eq_replacedAll, replacedAll]

end SheetKeys
end CellGraph
