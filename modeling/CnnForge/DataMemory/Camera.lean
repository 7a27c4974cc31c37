import CnnForge.Text.Digits

namespace CnnForge.Camera

def columns : String := "vsync,href,pclk,d\n"

def line (vsync href clock data : Int) : String := s!"{vsync},{href},{clock},{Text.hex 2 data}\n"

def transfer (vsync href data : Int) (stretch : Nat := 0) : String :=
  line vsync href 0 data ++ line vsync href 1 data ++ line vsync href 1 data
    ++ String.join (List.replicate (3 * stretch) (line vsync href 0 data))

def idle (n : Nat) (vsync : Int := 0) : String :=
  String.join (List.replicate n (transfer vsync 0 0))

def start (leader : Nat := 10) (high : Nat := 50) (low : Nat := 20) : String :=
  columns ++ idle leader ++ idle high 1 ++ idle low

def endRow (retrace : Nat := 5) : String := idle retrace

def endImage (n : Nat := 10) : String := idle n

def pixel (value : Int) : String := transfer 0 1 value 1

def packedPixel (word : Int) : String :=
  let w := word.toNat
  pixel ((w / 256) % 256 : Nat) ++ pixel ((w % 256 : Nat) : Int)

end CnnForge.Camera
