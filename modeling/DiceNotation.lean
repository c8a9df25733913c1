import DiceNotation.Editor
import DiceNotation.Main
import DiceNotation.Serial.Model
import DiceNotation.Proofs.Terms
import DiceNotation.Proofs.NormalForm
import DiceNotation.Proofs.Building
import DiceNotation.Proofs.Replay
import DiceNotation.Proofs.Beginnings
import DiceNotation.Proofs.Malformed
import DiceNotation.Proofs.Repetition
import DiceNotation.Proofs.Seeds
import DiceNotation.Proofs.GrandTotals
import DiceNotation.Proofs.Comparison
import DiceNotation.Proofs.FaithfulViews
import DiceNotation.Proofs.Verdicts
import DiceNotation.Proofs.Spending
import DiceNotation.Proofs.WrittenForms
import DiceNotation.Proofs.Sessions
import DiceNotation.Proofs.Courses
import DiceNotation.Proofs.Keeping
import DiceNotation.Proofs.TotalBounds
import DiceNotation.Proofs.FirstFailure
import DiceNotation.Proofs.Signs
import DiceNotation.Proofs.UnfitNumbers
import DiceNotation.Proofs.Fragments
import DiceNotation.Proofs.Rebuilding
import DiceNotation.Proofs.Marks
import DiceNotation.Proofs.Identity
import DiceNotation.Proofs.Completions
import DiceNotation.Proofs.FairDice
