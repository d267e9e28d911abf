import IconAssets.Text.Utf8

/-!
# Outline images

Ionicons draws outline icons with a black stroke written into the image.  A tinted icon needs
the stroke to follow the current colour, so the attribute is rewritten.
-/

namespace IconAssets
namespace Image

/-- The stroke attribute as outline images are drawn. -/
def blackStroke : Text := "stroke=\"#000\"".toList

/-- The stroke attribute that follows the tint. -/
def tintedStroke : Text := "stroke=\"currentColor\"".toList

/-- The image with each black stroke tinted. -/
def tintStrokes (image : Text) : Text := Text.replaceAll blackStroke tintedStroke image

/-- The image file with each black stroke tinted; a file that is not UTF-8 stays as it is. -/
def tintBytes (image : Bytes) : Bytes :=
  match Utf8.decode image with
  | some t => Utf8.encode (tintStrokes t)
  | none => image

end Image
end IconAssets
