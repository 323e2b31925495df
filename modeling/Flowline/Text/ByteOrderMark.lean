/-!
The byte order mark, with which a text may begin and which is no part of it.
-/
namespace Flowline.Text

def dropMark : List Char → List Char
  | '\ufeff' :: cs => cs
  | cs => cs

end Flowline.Text
