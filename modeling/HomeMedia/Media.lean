import HomeMedia.Path
import HomeMedia.Text.Lower
/-!
# Media files

A file is media when its name has an extension from a fixed list, in any case. The extension has to
be text; nothing else of the path matters.
-/

namespace HomeMedia
namespace Media

/-- The extensions of sound, video and picture files. -/
def extensions : List String := [
  "mp3", "ogg", "opus", "aac", "m4a", "wma", "flac", "wav", "aiff", "aif", "alac", "ape", "wv",
  "mkv", "mp4", "m4v", "avi", "mov", "mpg", "mpeg", "ts", "webm", "wmv",
  "jpg", "jpeg", "png", "gif", "bmp"]

/-- Whether a path leads to a media file. -/
def isMedia (p : Path) : Bool :=
  match p.extension?.bind Text.Utf8.toString? with
  | some extension => extensions.contains (Text.lower extension)
  | none => false

end Media
end HomeMedia
