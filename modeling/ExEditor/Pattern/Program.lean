import ExEditor.Pattern.Basic

/-! Patterns as programs. The code of a pattern is a list of instructions that is entered at its front and
left at its end; where it goes elsewhere it says how many instructions ahead or back. So it does not
depend on where it stands, and code is put together by appending lists. -/
namespace ExEditor
namespace Pattern

open Unicode (Ranges)

/-- An instruction. All but `jump` go on with the next instruction. -/
inductive Instruction
  | take (set : Ranges)
  | check (assertion : Look) (asciiWords : Bool)
  | save (slot : Nat)
  /-- Go on with the next instruction or `ahead`, and try the next one first if it is preferred. -/
  | fork (preferNext : Bool) (ahead : Nat)
  /-- Go on with the next instruction or `back`, and try to go back first if that is preferred. -/
  | loop (preferBack : Bool) (back : Nat)
  | jump (ahead : Nat)

/-- The code of up to `n` occurrences of what is matched by `body`, each of which is tried only after
the one before it. -/
def optionalCode (greedy : Bool) (body : List Instruction) (n : Nat) : List Instruction :=
  (List.range n).flatMap fun i => .fork greedy ((n - i) * (body.length + 1)) :: body

/-- The code of at least one occurrence of what is matched by `body`. -/
def loopCode (greedy : Bool) (body : List Instruction) : List Instruction :=
  body ++ [.loop greedy body.length]

/-- The code of a number of occurrences between bounds of what is matched by `body`. -/
def repeatCode (least : Nat) (greedy : Bool) (body : List Instruction) : Option Nat → List Instruction
  | some most => (List.replicate least body).flatten ++ optionalCode greedy body (most - least)
  | none =>
    if least = 0 then .fork greedy (body.length + 2) :: loopCode greedy body
    else (List.replicate (least - 1) body).flatten ++ loopCode greedy body

/-- The code of a pattern. -/
def code : Pattern → List Instruction
  | empty => []
  | text cs => cs.map fun c => .take [(c.toNat, c.toNat)]
  | chars set => [.take set]
  | look assertion asciiWords => [.check assertion asciiWords]
  | seq p q => p.code ++ q.code
  | alt p q => .fork true (p.code.length + 2) :: p.code ++ .jump (q.code.length + 1) :: q.code
  | group index p => .save (2 * index) :: p.code ++ [.save (2 * index + 1)]
  | times least most greedy p => repeatCode least greedy p.code most

/-- The code of a pattern as it is run. Its end is where a match is complete. -/
def program (p : Pattern) : Array Instruction := p.code.toArray

end Pattern
end ExEditor
