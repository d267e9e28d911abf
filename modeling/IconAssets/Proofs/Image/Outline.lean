import IconAssets.Image.Outline
import IconAssets.Proofs.Text.Replacing

/-!
# Tinted images

The two stroke attributes start with one letter that is nowhere else in them, and neither is a beginning
of the other.  So a tinted image has no black stroke, also none that has only arisen where a tinted
stroke meets what stands around it, and it differs from the image before in nothing but its black
strokes.

* `rivals_strokes`: the two attributes;
* `eq_tintStrokes_iff`: what marks out the tinted image;
* `tintStrokes_complete`: tinting is complete, changes nothing a second time and nothing else;
* `tintBytes_tintBytes`: image files.
-/

namespace IconAssets
namespace Image

/-- The image with each tinted stroke drawn in black. -/
def blackenStrokes (image : Text) : Text := Text.replaceAll tintedStroke blackStroke image

theorem rivals_strokes :
    Text.Rivals 's' "troke=\"#000\"".toList "troke=\"currentColor\"".toList := by
  constructor <;> decide

/-- A tinted image is the one without black strokes that looks the same in black. -/
theorem eq_tintStrokes_iff {image tinted : Text} :
    tinted = tintStrokes image ↔
      ¬blackStroke <:+: tinted ∧ blackenStrokes tinted = blackenStrokes image :=
  rivals_strokes.eq_replaceAll_iff

/-- A tinted image has no black strokes. -/
theorem not_infix_tintStrokes (image : Text) : ¬blackStroke <:+: tintStrokes image :=
  (eq_tintStrokes_iff.mp rfl).1

/-- A tinted image looks in black as the image before did. -/
theorem blackenStrokes_tintStrokes (image : Text) :
    blackenStrokes (tintStrokes image) = blackenStrokes image :=
  (eq_tintStrokes_iff.mp rfl).2

/-- A tinted image stays as it is. -/
theorem tintStrokes_tintStrokes (image : Text) : tintStrokes (tintStrokes image) = tintStrokes image :=
  (eq_tintStrokes_iff.mpr ⟨not_infix_tintStrokes image, rfl⟩).symm

/-- **Tinting an image leaves no black stroke, changes nothing a second time, and changes nothing else:**
drawn in black, the image is the same as before. -/
theorem tintStrokes_complete (image : Text) :
    ¬blackStroke <:+: tintStrokes image ∧
      tintStrokes (tintStrokes image) = tintStrokes image ∧
        blackenStrokes (tintStrokes image) = blackenStrokes image :=
  ⟨not_infix_tintStrokes image, tintStrokes_tintStrokes image, blackenStrokes_tintStrokes image⟩

/-- An attribute that breaks off for another one is none, whatever follows the other. -/
example :
    tintStrokes "<g stroke=\"stroke=\"#000\"#000\"/>".toList =
      "<g stroke=\"stroke=\"currentColor\"#000\"/>".toList := by decide

/-- A file with a tinted image stays as it is, and so does a file that is no text. -/
theorem tintBytes_tintBytes (image : Bytes) : tintBytes (tintBytes image) = tintBytes image := by
  cases himage : Utf8.decode image with
  | none =>
      have hkept : tintBytes image = image := by
        rw [tintBytes, himage]
      rw [hkept, hkept]
  | some t =>
      have htinted : tintBytes image = Utf8.encode (tintStrokes t) := by
        rw [tintBytes, himage]
      rw [htinted, tintBytes, Utf8.decode_encode]
      dsimp only
      rw [tintStrokes_tintStrokes]

end Image
end IconAssets
