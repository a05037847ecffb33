import SuiteRunner.Engine.Scripted
import SuiteRunner.Proofs.Lifecycle

/-!
# What failures tell

A failure names its place: the number and the line of a statement, or the call outside the statements that raised the
fault. Where it tells of two texts these differ, whatever the texts are. Two things can spoil this, both of the engine's
making: it may raise a mismatch itself, and a fault that cannot be told. The report of a session is followed result by
result, each with the state that its run starts from.
-/

namespace SuiteRunner.Proofs

section Runs

variable {σ : Type} {engine : Engine σ} {test : TestCase} {mode : Mode} {s s' : σ}

end Runs

section Sessions

variable {σ : Type} {engine : Engine σ} {env : Environment}

/-- A mismatch that the engine raises is taken for one of the runner's, even between equal texts. -/
example :
    ((Engine.scripted fun _ => { entries := [("cd".toList, .fault (.mismatch "x".toList "x".toList))] }).runInMode
      (TestCase.ofStatements [] "sum".toList [.command .observer "cd".toList .success]) .run .normal).value =
        .ok ⟨"::sum".toList, .run, .failed ⟨1, "O> cd".toList, .mismatch "x".toList "x".toList⟩⟩ := by
  rfl

end Sessions

end SuiteRunner.Proofs
