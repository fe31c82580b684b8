import LuaShell.Text.Quoted

/-!
# Characters as they are seen

What a reader takes for one character may be several code points: a letter with its
marks, consonants that a mark links, a pair of flag letters, the parts of a syllable,
pictures tied together.  A text is cut into such groups, and a backspace takes back the
group before it.
-/

namespace LuaShell.Text

/-- Controls, formats and separators, which join nothing. -/
def controlRanges : List (Nat × Nat) :=
  [(0, 9), (11, 12), (14, 31), (127, 159), (173, 173), (1564, 1564), (6158, 6158), (8203, 8203),
   (8206, 8207), (8232, 8238), (8288, 8303), (65279, 65279), (65520, 65531), (78896, 78911),
   (113824, 113827), (119155, 119162), (917504, 917535), (917632, 917759), (918000, 921599)]

/-- Signs that belong to what follows them. -/
def leadingRanges : List (Nat × Nat) :=
  [(1536, 1541), (1757, 1757), (1807, 1807), (2192, 2193), (2274, 2274), (3406, 3406),
   (69821, 69821), (69837, 69837), (70082, 70083), (70609, 70609), (71999, 71999), (72001, 72001),
   (72324, 72329), (73030, 73030), (73474, 73474)]

/-- Spacing marks, which belong to what stands before them. -/
def spacingRanges : List (Nat × Nat) :=
  [(2307, 2307), (2363, 2363), (2366, 2368), (2377, 2380), (2382, 2383), (2434, 2435),
   (2495, 2496), (2503, 2504), (2507, 2508), (2563, 2563), (2622, 2624), (2691, 2691),
   (2750, 2752), (2761, 2761), (2763, 2764), (2818, 2819), (2880, 2880), (2887, 2888),
   (2891, 2892), (3007, 3007), (3009, 3010), (3014, 3016), (3018, 3020), (3073, 3075),
   (3137, 3140), (3202, 3203), (3262, 3262), (3265, 3265), (3267, 3268), (3315, 3315),
   (3330, 3331), (3391, 3392), (3398, 3400), (3402, 3404), (3458, 3459), (3536, 3537),
   (3544, 3550), (3570, 3571), (3635, 3635), (3763, 3763), (3902, 3903), (3967, 3967),
   (4145, 4145), (4155, 4156), (4182, 4183), (4228, 4228), (6070, 6070), (6078, 6085),
   (6087, 6088), (6435, 6438), (6441, 6443), (6448, 6449), (6451, 6456), (6681, 6682),
   (6741, 6741), (6743, 6743), (6765, 6770), (6916, 6916), (6974, 6977), (7042, 7042),
   (7073, 7073), (7078, 7079), (7143, 7143), (7146, 7148), (7150, 7150), (7204, 7211),
   (7220, 7221), (7393, 7393), (7415, 7415), (43043, 43044), (43047, 43047), (43136, 43137),
   (43188, 43203), (43346, 43346), (43395, 43395), (43444, 43445), (43450, 43451), (43454, 43455),
   (43567, 43568), (43571, 43572), (43597, 43597), (43755, 43755), (43758, 43759), (43765, 43765),
   (44003, 44004), (44006, 44007), (44009, 44010), (44012, 44012), (69632, 69632), (69634, 69634),
   (69762, 69762), (69808, 69810), (69815, 69816), (69932, 69932), (69957, 69958), (70018, 70018),
   (70067, 70069), (70079, 70079), (70094, 70094), (70188, 70190), (70194, 70195), (70368, 70370),
   (70402, 70403), (70463, 70463), (70465, 70468), (70471, 70472), (70475, 70476), (70498, 70499),
   (70585, 70586), (70602, 70602), (70604, 70605), (70709, 70711), (70720, 70721), (70725, 70725),
   (70833, 70834), (70841, 70841), (70843, 70844), (70846, 70846), (70849, 70849), (71088, 71089),
   (71096, 71099), (71102, 71102), (71216, 71218), (71227, 71228), (71230, 71230), (71340, 71340),
   (71342, 71343), (71454, 71454), (71462, 71462), (71724, 71726), (71736, 71736), (71985, 71989),
   (71991, 71992), (72000, 72000), (72002, 72002), (72145, 72147), (72156, 72159), (72164, 72164),
   (72249, 72249), (72279, 72280), (72343, 72343), (72545, 72545), (72549, 72549), (72551, 72551),
   (72751, 72751), (72766, 72766), (72873, 72873), (72881, 72881), (72884, 72884), (73098, 73102),
   (73107, 73108), (73110, 73110), (73461, 73462), (73475, 73475), (73524, 73525), (73534, 73535),
   (90410, 90412), (94033, 94087)]

/-- Marks that link a consonant to the next one. -/
def linkers : List Nat :=
  [0x094D, 0x09CD, 0x0ACD, 0x0B4D, 0x0C4D, 0x0D4D]

/-- Consonants that can be linked. -/
def consonantRanges : List (Nat × Nat) :=
  [(0x0915, 0x0939), (0x0958, 0x095F), (0x0978, 0x097F), (0x0995, 0x09A8), (0x09AA, 0x09B0),
   (0x09B2, 0x09B2), (0x09B6, 0x09B9), (0x09DC, 0x09DD), (0x09DF, 0x09DF), (0x09F0, 0x09F1),
   (0x0A95, 0x0AA8), (0x0AAA, 0x0AB0), (0x0AB2, 0x0AB3), (0x0AB5, 0x0AB9), (0x0AF9, 0x0AF9),
   (0x0B15, 0x0B28), (0x0B2A, 0x0B30), (0x0B32, 0x0B33), (0x0B35, 0x0B39), (0x0B5C, 0x0B5D),
   (0x0B5F, 0x0B5F), (0x0B71, 0x0B71), (0x0C15, 0x0C28), (0x0C2A, 0x0C39), (0x0C58, 0x0C5A),
   (0x0D15, 0x0D3A)]

/-- Pictures. -/
def pictureRanges : List (Nat × Nat) :=
  [(169, 169), (174, 174), (8252, 8252), (8265, 8265), (8482, 8482), (8505, 8505), (8596, 8601),
   (8617, 8618), (8986, 8987), (9000, 9000), (9096, 9096), (9167, 9167), (9193, 9203),
   (9208, 9210), (9410, 9410), (9642, 9643), (9654, 9654), (9664, 9664), (9723, 9726),
   (9728, 9733), (9735, 9746), (9748, 9861), (9872, 9989), (9992, 10002), (10004, 10004),
   (10006, 10006), (10013, 10013), (10017, 10017), (10024, 10024), (10035, 10036),
   (10052, 10052), (10055, 10055), (10060, 10060), (10062, 10062), (10067, 10069),
   (10071, 10071), (10083, 10087), (10133, 10135), (10145, 10145), (10160, 10160),
   (10175, 10175), (10548, 10549), (11013, 11015), (11035, 11036), (11088, 11088),
   (11093, 11093), (12336, 12336), (12349, 12349), (12951, 12951), (12953, 12953),
   (126976, 127231), (127245, 127247), (127279, 127279), (127340, 127345), (127358, 127359),
   (127374, 127374), (127377, 127386), (127405, 127461), (127489, 127503), (127514, 127514),
   (127535, 127535), (127538, 127546), (127548, 127551), (127561, 127994), (128000, 128317),
   (128326, 128591), (128640, 128767), (128884, 128895), (128981, 129023), (129036, 129039),
   (129096, 129103), (129114, 129119), (129160, 129167), (129198, 129279), (129292, 129338),
   (129340, 129349), (129351, 129791), (130048, 131069)]

/-- What decides about the joints before and after a code point. -/
inductive JointClass where
  | lineFeed
  | carriageReturn
  | control
  | extending
  /-- It extends, but ends a row of consonants. -/
  | nonJoiner
  /-- It extends and links consonants. -/
  | linker
  | joiner
  | consonant
  | spacing
  | leading
  | regional
  | hangulL
  | hangulV
  | hangulT
  | hangulLV
  | hangulLVT
  | picture
  | other
  deriving DecidableEq

/-- The class of a code point. -/
def JointClass.of (c : Char) : JointClass :=
  let n := c.toNat
  if n = 10 then .lineFeed
  else if n = 13 then .carriageReturn
  else if n = 0x200D then .joiner
  else if inRanges controlRanges n then .control
  else if n < 128 then .other
  else if n = 0x200C then .nonJoiner
  else if linkers.contains n then .linker
  else if inRanges consonantRanges n then .consonant
  else if inRanges joiningRanges n || (127995 ≤ n && n ≤ 127999) then .extending
  else if inRanges spacingRanges n then .spacing
  else if inRanges leadingRanges n then .leading
  else if 0x1F1E6 ≤ n && n ≤ 0x1F1FF then .regional
  else if (0x1100 ≤ n && n ≤ 0x115F) || (0xA960 ≤ n && n ≤ 0xA97C) then .hangulL
  else if (0x1160 ≤ n && n ≤ 0x11A7) || (0xD7B0 ≤ n && n ≤ 0xD7C6) then .hangulV
  else if n = 0x16D63 || (0x16D67 ≤ n && n ≤ 0x16D6A) then .hangulV
  else if (0x11A8 ≤ n && n ≤ 0x11FF) || (0xD7CB ≤ n && n ≤ 0xD7FB) then .hangulT
  else if 0xAC00 ≤ n && n ≤ 0xD7A3 then if (n - 0xAC00) % 28 = 0 then .hangulLV else .hangulLVT
  else if inRanges pictureRanges n then .picture
  else .other

/-- What has to be known of a group so far: its last class, how many flag letters end it,
whether it ends in a picture with marks (`0`), or such a picture and a joiner (`1`), and
whether it ends in a consonant with marks, of which one links or none. -/
structure GroupEnd where
  last : JointClass
  flags : Nat
  picture : Option Nat
  consonant : Option Bool

namespace GroupEnd

/-- The end of a group of one code point. -/
def first (k : JointClass) : GroupEnd :=
  ⟨k, if k = .regional then 1 else 0, if k = .picture then some 0 else none,
    if k = .consonant then some false else none⟩

/-- Whether a code point goes on with the group. -/
def joins (g : GroupEnd) (k : JointClass) : Bool :=
  match g.last, k with
  | .carriageReturn, .lineFeed => true
  | .carriageReturn, _ | .lineFeed, _ | .control, _ => false
  | _, .carriageReturn | _, .lineFeed | _, .control => false
  | _, .extending | _, .nonJoiner | _, .linker | _, .joiner | _, .spacing => true
  | .leading, _ => true
  | _, .consonant => g.consonant = some true
  | .hangulL, .hangulL | .hangulL, .hangulV | .hangulL, .hangulLV | .hangulL, .hangulLVT => true
  | .hangulLV, .hangulV | .hangulLV, .hangulT | .hangulV, .hangulV | .hangulV, .hangulT => true
  | .hangulLVT, .hangulT | .hangulT, .hangulT => true
  | .joiner, .picture => g.picture = some 1
  | .regional, .regional => g.flags % 2 = 1
  | _, _ => false

/-- The end of the group with one code point more. -/
def next (g : GroupEnd) (k : JointClass) : GroupEnd :=
  ⟨k, if k = .regional then g.flags + 1 else 0,
    match k, g.picture with
    | .picture, _ => some 0
    | .extending, some 0 | .nonJoiner, some 0 | .linker, some 0 => some 0
    | .joiner, some 0 => some 1
    | _, _ => none,
    match k with
    | .consonant => some false
    | .linker => g.consonant.map fun _ => true
    | .extending | .joiner => g.consonant
    | _ => none⟩

end GroupEnd

/-- Cut a text into groups; `group` is the one that has begun, last code point first. -/
def groupsFrom (group : List Char) (g : GroupEnd) : List Char → List (List Char)
  | [] => [group.reverse]
  | c :: cs =>
      let k := JointClass.of c
      if g.joins k then groupsFrom (c :: group) (g.next k) cs
      else group.reverse :: groupsFrom [c] (.first k) cs

/-- The groups of a text, in order. -/
def groups : List Char → List (List Char)
  | [] => []
  | c :: cs => groupsFrom [c] (.first (JointClass.of c)) cs

/-- A text, last character first, without so many bytes at its end. -/
def dropBytes : Nat → List Char → List Char
  | 0, cs => cs
  | _, [] => []
  | n + 1, c :: cs => dropBytes (n + 1 - c.utf8Size) cs

/-- How many bytes a backspace takes back of a group: the number is kept in one byte. -/
def keptSize (group : List Char) : Nat :=
  (String.ofList group).utf8ByteSize % 256

/-- What has been read of a line, last character first, and the sizes of its groups, last group
first. -/
abbrev Typed := List Char × List Nat

/-- One group more. -/
def type (t : Typed) (group : List Char) : Typed :=
  if group = [Char.ofNat 8] then match t.2 with
    | [] => t
    | n :: sizes => (dropBytes n t.1, sizes)
  else (group.reverse ++ t.1, keptSize group :: t.2)

/-- The text after its backspaces have been carried out. -/
def eraseBackspaces (text : String) : String :=
  String.ofList ((groups text.toList).foldl type ([], [])).1.reverse

end LuaShell.Text
