import Remap.Text.RunLength

/-!
# Ages and editions

The version of the standard in which each character was added. The library reads the data of two
editions: names, case and escaping follow the current one, patterns the one before it. A property
differs between them where characters were added, and in few other places.
-/

namespace Remap.Text

/-- The versions that added characters. -/
def versions : List (Nat × Nat) := [
  (1, 1), (2, 0), (2, 1), (3, 0), (3, 1), (3, 2), (4, 0), (4, 1), (5, 0), (5, 1), (5, 2), (6, 0),
  (6, 1), (6, 2), (6, 3), (7, 0), (8, 0), (9, 0), (10, 0), (11, 0), (12, 0), (12, 1), (13, 0),
  (14, 0), (15, 0), (15, 1), (16, 0), (17, 0)]

/-- The positions of the versions of all code points; the last letter stands for those that no
version has added. -/
def ageText : String :=
  String.join [
    "502A4D30A8DFG18D3G11H14I89A5D2G47AD10A5D17G70A9DF8G5H3G2AD13F4J2A2J2cA3IAP4c7AcAc20Ac44AJ7AD",
    "2FADADADAD18A2EF5G4HD12AD66AD12AD41AJ2D2F4D53A2F2A2F2A2FI28A2D8A2H2A6I16F4I16J2K2L8Pc38A2c7A",
    "T39ATAD2c2PMc17BH13B10AI9AB3H8c27A4cT5A11c4GMP5JHA9G5JAOXHAL26A5J19A3D3G6HL14A2F72A2D5AD15AD",
    "30A2G10A5DG14Dc30D3G27D2c3G30H18J49DF14c59I2c3T46K2c15Kc28L2cLc11S5c31Xb2X5ca8XMP11M6P2QX8R",
    "10W11XT15RQ27MPK3AG53A2L18AKL5AK2L25A2J5LP2K2IH2IP3Ac8A2c2A2c22Ac7AcA3c4A2cAG7A2c2A2c3AH8cA",
    "4c2Ac5A2c21AK2ST2cGAGc6A4c2A2c22Ac7Ac2Ac2Ac2A2cAc5A4c2A2c3A3cJ7c4AcA7c15AJT10c3Ac7AGAc3Ac22A",
    "c7Ac2Ac5A2c10Ac3Ac3A2cA15cA3G2c10AMG7cQ6Sc3Ac8A2c2A2c22Ac7Ac2AcG4A2c8AJ2c2A2c3A7cW2A4c2Ac3A",
    "2J2c11AG6L10c2Ac6A3c3Ac4A3c2AcAc2A3c2A3c3A3c8AH3A4c5A3c3Ac4A2cJ6cA14cH12A8G5cP3AT8Ac3Ac23Ac",
    "10AP5A2cXJ7Ac3Ac4A7c2Ac2JQcbX2c2A2J2c10A7cU8JRP2AT8Ac3Ac23Ac10Ac5A2c2G7Ac3Ac4A7c2A5cbXAc2A2I",
    "2c10Ac2IY12cSP2AW8Ac3Ac23AL16AL2SJ6AJc3Ac4ALR4c3RA7RQ2A2J2c10A6J3R7JcW2Dc18D3c24Dc9DcD2c7D3c",
    "D4c6DcDc8D6c10P2c3D12c58A4c29A37c2AcAcU2AUAcUA6U4AU7AU3AcAcA2U2AU13AU3A2c5AcAc6AYc10A2c2A2M",
    "32c72Bc33BD2J4c27B4L6BDBc21B3D7BDB3Dc15DcJD2H3J4K2L37c34DJ5DJ2DJ7D3J4D6J26D64J4K2J38AcM5cM2c",
    "39A2F2HAH3M90A5K68A5K82A6K7DH63DHDc4D2c7DcDc4D2c39DHDc4D2c31DHDc4D2c7DcDc4D2c7DH7Dc23DH31DHD",
    "c4D2c7DH39DH19D2c2L2H28D3c26H6c85DQ2c6Q2cK630D9K29D3c81D8P7c13FX7FX9cX23F9c20F12c13Fc3Fc2F",
    "12c93DG2c10D6c10G6c15DX10D6c88DT7c42DJ5c70K10c29G2Pc12G4c12G4cG3c42G2c5G11c42H2K4c26H6c10HK",
    "3c2H32G28H2c2H63Kc29K2c11K6c10K6c14K2c15P2W14X15b2c12b20c76IXc2a45I2Xa43J3M12J6M52L8c4L56J3c",
    "15J3c51J9R2a5c43T2c3T8M8c35K4MS2PU5c108G88H7I28J15P4SXRLK2I155AB4J90A6J22A2c6A2c38A2c6A2c8Ac",
    "AcAcAc31A2c53Ac15Ac14A2c6Ac19A2c3Ac9Ac47AD23AF6D5F2G2HF7H5FJc4O7AF2c27Ac5H8L3c11ABC3D2F4H3KL",
    "N3PQSXb14c18A2D7FH4IJ15c57A2DGH15FH2IJ3K48ADI4JK2Q4c91A9D12F242A14FAD121ADF30D52F2G11H12IK",
    "11L7P4RS37A2D3a22c11A21c139A20FG150A10F80A8D8F20A2G2FHD86A2D12F2H10F8G11HJ2K2G16HI10J3K4J10K",
    "L19KLK4L24KP4AL4A2L28AL35ALAL4A3LAK7A2L7A14F31A3L24AL14AL7H4IMJM2L28F4J16F256D512F14G6H7I5J",
    "4I41J3P5J5K26P2c32PbW34P3T12PU8PS25T4Q15TU47HX47HX13I3JK3J4I6J2K107H7K2M5c45HcM5cM2c54H2M7cH",
    "L14cL23H9c7Hc7Hc7Hc7Hc7Hc7Hc7Hc7Hc32J24H4J2H19JK10M7P2R5S5TU3W11X34c26Dc89D12c214D26c12D4Z",
    "56A3D3FDAc84A2F2c6A2F94AF5c40AJSTc94Ac16A24D3L5W16H20J2a9cZ16F29A2Gc36A12KG15F28A2GH50A15F",
    "12A4G47AV119A4G99A2G31AG6582D10W64G20902A22H8J8KM9Q21S5T13W3X1165D3c18D2F16DF12DF3DFD9c48K",
    "300J20c32J2L18J8M28J6PQM88K8c23H4I5J2I107J2LQ2L2M12P10LM3PRT2P6Q2T6U2X5U4W3a2b2XbXb5X3a20cb",
    "3X2WP2ML5J44HW3c10K6c56I8c69JR8c12J6c28K2Q2T84J11cJ29K3c78Kc11K4c2K31Pc55J9c14J2c10J2c4J28K",
    "4P67K24c5K23M10c6L2c6L2c6L9c7Lc7Lc48P4Q2P2U4W4c80Q46K2c10K6c11172B12c23K4c49K4c2048B6702A2M",
    "59F3K2c106H38c7A12c5A5cD25Ac5AcAc2Ac2Ac108A16LX16b365A16X64A2b54A7bX32E12AFG2X16F10H6c4A3J7P",
    "2Q21A2F2G10Ac19Ac4A4c3AFAc135A2cAc94A2F94A3c6A2c6A2c6A2c3A3c7Ac7A10c3DC3A12Gc26Gc19Gc2Gc15G",
    "2c14G34c123G5c3G4c45G3c9G75H2P2Rc12JW3cP47c46J130c29J3c49J15c28P4c31EP4E9c3S27E5c43P5c30GcG",
    "36H4c14H42c38E2G38E80G2c10G6c36R4c36R4c40P8c52P11cP11Xc15Xc7Xc2Xc11Xc15Xc7Xc2X3c52a12c311P9c",
    "22P10c8P24c6Xc42Xc9X69c6G2cGc44Gc2G3cG2cG22Kc9K63P8c9P48c19Qc2Q5c5Q26I2K3cI26J5cJ26b38c56M4c",
    "2Q2M16Q2c46Q4Hc2H5c8Hc3Hc27H2T2c3H4c9HT7c9H7c32K32P32c39P4c12P9c54K3c29K2c27K5c8K18P7c4P12c",
    "7P80c73K55c51Q13c51Q7c6Q40T8c10T6c38a3c29a8c2a208c31Kc42Wc3W2c2W16c3a3b8c9b33c2ba3Y40T8c42T",
    "22c26X38c28W20c23U9c78L4c30L6X9cP66KX10cT2c25M7c10M6c53Mc14M3TW8c39P9c73M4QP2W10MP5Qc20P11c",
    "18Pc43PR3Y62c7QcQc4Qc15Qc11Q6c59P5c10P6cQ3Pc8P2c2P2c22Pc7Pc2Pc5PcT9P2c2P2c3P2cQ6cP5c7P2c7P3c",
    "5P11c10aca2cac38ac10aca2cac4ac10ac2a8c2a29c90RWRcRTU2W30c72P8c10P166c54P2c18P20Q34c69P11c10P",
    "6c13R19c56MUX6c10M6c20a28c26QT2c15Q4c16Q7X185c60T100c83P12cP7W2cW2c8Wc2Wc30Wc2W2c12W9c10W70c",
    "8U2c46U2c11U27c72S8c52S2U23ST5S13c16X57P7c10Y86c8b88c34a14c10a6c9Rc45Rc14R10c29R3c32R2c22Rc",
    "14R73c7Sc2Sc44S3cSc2Sc9S8c10S6c6Tc2Tc37Tc2Tc6T7c10T6c44b4c10b246c25T7c17Yc41Y3c28Ya85cW15c",
    "50U13cU879I42PQ102c99I12Pc4IP11c196Q2636c99X13c1071KY9U29Y10c3995a5c583Q6841c58a1734c569L7c",
    "31Pc10P4c2P79Xc10X6c30P2c6P10c70P10c10Pc7Pc21P5c19P432c58a198c91T5c25b2c25b44c69M6U4cU47M9U",
    "7c17M64cRS2UW11c2W5b9c6125R5T6U8b755R483W41ca9W22b97c115b8701c4Xc7Xc2Xc2L285S4X15cY29c3U2cY",
    "14c4U8c396S2308c107P5c13P3c9P7c10P2c8P3932c250a3b3c436a6c23b15c17b15c46X2c23X9c116X60c246E",
    "10c39E2cJ180E11Q2X21c70H122c20Y12c20T12c87G9c18I7T135c85Ec71Ec2E2cE2c2E2c4Ec12EcEc4EG2Ec65Ec",
    "4E2c8Ec7Ec28Ec4Ec5EcE3c7Ec338E2H2c290E2I2c50E652Q15c5Qc15Q1104c31X6c6Y213c7Rc17R2c7Rc2Rc5R5c",
    "62Y33cY112c45U3c14U2c10U4c2U320c31X17c58U5cU464c42Y214c43a4ca192c31bc22b8c2b224c7Xc4Xc2Xc15X",
    "c197P2c16P41c75RU4c10R4c2R785c68T76c61U194c4Mc27Mc2McM2cMc10Mc4McMcM6cM4cMcMcMc3Mc2McM2cMcMc",
    "McMcMc2McM2c4Mc7Mc4Mc4McMc10Mc17M5c3Mc5Mc17M52c2M270c44J4c100J12c15L2c14LPc15Lc15L22P10c11K",
    "2P3W31KTLK11LKLK2LK3LK3L5K8LK7LK10L2MU3W9LKL2K2LK10L4K2LK10L18RW56c26LK2L13c34K9LR4c9K7c2L",
    "14c6S154c33L12P3Q6LP70LP2Q20L12P37LP5L4P5Q12P17L7P8Q63LPLP182LP4L2PQ62L2P4M7P5Q24L18PR41PR",
    "86P5LM16LM3LMLMLMLM3LM6L2M4LML2M4LM12L2P2Q11L48P70L10PQ2R2SU2Wb3cY3X13P3c4P3R2STU2W3c116L3Y",
    "4b5Y85P4TY6c12U4cX15c12P4c56P8c10P6c40P8c30P2c2W10a4c2a14c9b39c12SW3U9Q6RS8R8SR2S12RU12RS3T",
    "15R13S5TUW4T2WXTU4T5Q13R6S11T2W6U3W2U10T6UQ2T8UWX3U23S25T84U4b8c14T2c4UW3Y3U2X3c3U4W2Yab3cba",
    "6U19W4X3Y7W4X3YaY3W3Xacb4cb2Y7W3X2Ya2ca8XYab4cb7X2Y7c147Wc55W37a10Wb1027c2B42711E7W2X32c",
    "4149K4XY6b222L2c5762Q12b2c7473S15c622Z2466c542E1504c2B4939W5c4192Y4298b52100c2B65534c2B",
    "65534c2B65534c2B65534c2B65534c2B65534c2B65534c2B65534c2B65534c2B65534c2BcE30c96E128c240G",
    "65038c131074B"]

/-- The positions of the versions, as runs. -/
def ageRuns : List (Nat × Nat) :=
  RunLength.runs (Array.range (versions.length + 1)) ageText.toList 0 0

/-- The characters that the last version has added. -/
def additions : Ranges := RunLength.rangesWhere (· + 1 == versions.length) ageRuns

/-- The characters added by a version, given by its position, or before it. -/
def addedBy (position : Nat) : Ranges := RunLength.rangesWhere (· ≤ position) ageRuns

/-- An edition of the data. -/
inductive Edition
  | previous | current
  deriving DecidableEq, Repr

/-- What an edition has of a set of the current one. -/
def Edition.keep : Edition → Ranges → Ranges
  | .current, r => r
  | .previous, r => r.diff additions

end Remap.Text
