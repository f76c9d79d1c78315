namespace HostMonitor.Text

def asciiUpper? (c : Char) : Option (List Char) :=
  if c.toNat < 0x80 then some [c.toUpper] else
    match c.toNat with
    | 0xdf => some ['S', 'S']
    | 0x131 => some ['I']
    | 0x17f => some ['S']
    | 0xfb00 => some ['F', 'F']
    | 0xfb01 => some ['F', 'I']
    | 0xfb02 => some ['F', 'L']
    | 0xfb03 => some ['F', 'F', 'I']
    | 0xfb04 => some ['F', 'F', 'L']
    | 0xfb05 => some ['S', 'T']
    | 0xfb06 => some ['S', 'T']
    | _ => none

def asciiUppercase? : List Char → Option (List Char)
  | [] => some []
  | c :: cs => do return (← asciiUpper? c) ++ (← asciiUppercase? cs)

def uppercaseIs (s word : String) : Bool := asciiUppercase? s.toList == some word.toList

end HostMonitor.Text
